import Retrace.Proofs.Clause.Offence
import Retrace.Proofs.Draft.Quotations
import Retrace.Proofs.Formula.Untouched
import Retrace.Proofs.Script

/-!
Quotations in the script for a trace: each is closed where its formula ends exactly if no name and no
formula of the trace holds a double quote.
-/

namespace Retrace

open Statement (doubleQuotes)

namespace Clause

/-- The formula of a clause on lines of a trace is its given formula carried over. -/
theorem formula_of_mem_onLines {number : Nat} {texts : List String} {clause : Clause}
    (member : clause ∈ onLines number texts) :
    clause.formula = Formula.translate clause.givenFormula := by
  obtain ⟨index, text, -, held⟩ := exists_onLine?_of_mem_onLines member
  obtain ⟨entry, -, made⟩ := onLine?_eq_some_iff.mp held
  -- Both formulas come from the entry on the line.
  unfold ofEntry at made
  cases cited : Justification.parents entry.justification with
  | error fault => simp [cited, Bind.bind, Except.bind] at made
  | ok parents =>
    simp only [cited, Bind.bind, Except.bind, pure, Except.pure, Except.ok.injEq] at made
    rw [← made]

end Clause

/-- No pass over a formula writes, drops or replaces a double quote. -/
theorem Formula.doubleQuotes_translate (formula : String) :
    doubleQuotes (translate formula) = doubleQuotes formula := by
  -- A double quote is no blank, and no symbol is made of it.
  have blanks (c : Char) (blank : Text.isBlank c = true) : (c == '"') = false := by
    rw [beq_eq_false_iff_ne]
    rintro rfl
    exact absurd blank (by decide)
  have touched : ∀ c ∈ ',' :: '(' :: ')' :: symbolCharacters, (c == '"') = false := by
    intro c member
    rw [beq_eq_false_iff_ne]
    rintro rfl
    exact absurd member (by decide)
  have kept := filter_toHol blanks touched formula.toList
  simp only [doubleQuotes, translate, String.toList_ofList, List.count_eq_length_filter, kept]

/-- A line holds the double quotes of its statement. -/
theorem Line.doubleQuotes_text (line : Line) :
    doubleQuotes line.text = doubleQuotes line.statement.text := by
  -- The column is made of spaces, and a line feed ends the line.
  simp [doubleQuotes, toList_text, toList_written, List.count_replicate]

namespace Session

/-- In the script for an accepted trace, the line of a quotation holds the two double quotes around
what it quotes and those of the texts that are put there. So all quotations are closed where they
end exactly if no clause of the trace has a double quote in its name or in its formula. -/
theorem quotations_closed_iff {method : Method} {preferences : Preferences} {trace : String}
    {summary : Summary} {session : Session}
    (accepted : runText trace (new method preferences none) = .ok summary session) :
    (∀ line ∈ session.script.lines.toList, line.statement.isQuotation = true →
        doubleQuotes line.text = 2 + doubleQuotes (String.join line.statement.texts)) ∧
      ((∀ line ∈ session.script.lines.toList, line.statement.isQuotation = true →
          doubleQuotes line.text = 2) ↔
        ∀ clause ∈ Clause.onLines 1 (textLines trace),
          '"' ∉ clause.name.toList ∧ '"' ∉ clause.givenFormula.toList) := by
  obtain ⟨closed, suited⟩ := closed_of_runText accepted
  obtain ⟨stated, only⟩ := closed.quotedTexts suited
  refine ⟨fun line _ quotes => ?_, ?_⟩
  · rw [line.doubleQuotes_text, Statement.doubleQuotes_text quotes]
  -- A formula holds a double quote exactly if it was given with one.
  have kept (clause : Clause) (member : clause ∈ Clause.onLines 1 (textLines trace)) :
      '"' ∉ clause.formula.toList ↔ '"' ∉ clause.givenFormula.toList := by
    rw [← Statement.doubleQuotes_eq_zero_iff, Clause.formula_of_mem_onLines member,
      Formula.doubleQuotes_translate, Statement.doubleQuotes_eq_zero_iff]
  constructor
  · intro ends clause member
    -- Both the name and the formula stand in some quotation.
    have clean (text : String) (quoted : text ∈ Statement.quotedTexts session.script.statements) :
        '"' ∉ text.toList := by
      obtain ⟨statement, among, quotes, held⟩ := Statement.mem_quotedTexts.mp quoted
      obtain ⟨line, inside, rfl⟩ := List.mem_map.mp among
      have both := ends line inside quotes
      rw [line.doubleQuotes_text, Statement.doubleQuotes_text_eq_two_iff quotes] at both
      exact both text held
    obtain ⟨named, written⟩ := stated clause member
    exact ⟨clean _ named, (kept clause member).mp (clean _ written)⟩
  · intro clean line inside quotes
    rw [line.doubleQuotes_text, Statement.doubleQuotes_text_eq_two_iff quotes]
    intro text held
    have quoted : text ∈ Statement.quotedTexts session.script.statements :=
      Statement.mem_quotedTexts.mpr ⟨_, List.mem_map_of_mem inside, quotes, held⟩
    -- Beside names and formulas only rules are named, and their names hold no double quote.
    rcases only text quoted with ⟨clause, among, rfl | rfl⟩ | ⟨number, rfl⟩
    · exact (clean clause among).1
    · exact (kept clause among).mpr (clean clause among).2
    · exact Statement.doubleQuotes_eq_zero_iff.mp (Statement.doubleQuotes_ruleName number)

/-- In the script for the sample, every quotation is closed where it ends. -/
theorem quotations_closed_iff_sample :
    ∃ summary session,
      runText sample (new .tableau {} none) = .ok summary session ∧
        ∀ line ∈ session.script.lines.toList, line.statement.isQuotation = true →
          doubleQuotes line.text = 2 := by
  obtain ⟨summary, session, accepted⟩ := runText_sample .tableau
  -- Neither a name nor a formula of the sample holds a double quote.
  have clean : ∀ clause ∈ Clause.onLines 1 (textLines sample),
      '"' ∉ clause.name.toList ∧ '"' ∉ clause.givenFormula.toList := by
    decide +kernel
  exact ⟨summary, session, accepted, (quotations_closed_iff accepted).2.mpr clean⟩

/-- A trace whose only formula holds a distinct object. -/
def distinctObject : String :=
  "cnf(a,axiom,p(\"x\"),file(f))."

/-- In the script for this trace, the line of the axiom holds four double quotes, so that what is
quoted is closed in front of the distinct object. -/
theorem quotations_distinctObject :
    ∃ summary session,
      runText distinctObject (new .direct {} none) = .ok summary session ∧
        ∃ line ∈ session.script.lines.toList,
          line.text = "  assumes a: \"(p \"x\")\"\n" ∧ line.statement.isQuotation = true ∧
            doubleQuotes line.text ≠ 2 := by
  -- The trace is run once, and all lines of its script are looked through.
  have left : leaves .direct distinctObject (fun session =>
      decide (∃ line ∈ session.script.lines.toList,
        line.text = "  assumes a: \"(p \"x\")\"\n" ∧ line.statement.isQuotation = true ∧
          doubleQuotes line.text ≠ 2)) = true := by
    decide +kernel
  obtain ⟨summary, session, accepted, found⟩ := runText_of_leaves left
  exact ⟨summary, session, accepted, of_decide_eq_true found⟩

end Session

end Retrace
