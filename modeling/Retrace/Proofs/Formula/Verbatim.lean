import Mathlib.Data.List.Infix
import Retrace.Proofs.Formula.Spans
import Retrace.Proofs.Text.Words

/-!
Quoted text carried over verbatim: the HOL form of a formula has the quoted spans of the formula, in
the same order and to the letter. Plain quotes have to read the spans alike, for applications are cut
by plain quotes; and lists of variables may not be broken by spans, for binders know no quotes.
-/

namespace Retrace.Formula

open Text (AllBlank cutAtBlanks isBlank words)

/-- The characters that grouping and currying may write or take away. -/
def isLoose (c : Char) : Bool :=
  isBlank c || c == ',' || c == '(' || c == ')'

/-- Behind its opening bracket a list of variables has no blank in a span, and its closing bracket is
in none. Where loose characters are dropped, the blanks that are left are those in spans. -/
def unbroken : List (Quoting × Char) → Bool
  | [] => true
  | (quoting, c) :: rest => if c = ']' then quoting = .outside else ! isBlank c && unbroken rest

/-- If a list of variables starts here, it is unbroken. -/
def listUnbroken : List (Quoting × Char) → Bool
  | (.outside, c) :: (.outside, '[') :: rest => ! (c == '!' || c == '?') || unbroken rest
  | _ => true

/-- No list of variables in the text is broken by a span. -/
def ListsUnbroken (quoting : Quoting) (text : List Char) : Prop :=
  ∀ entries ∈ (seen isLoose quoting text).tails, listUnbroken entries = true

instance (quoting : Quoting) (text : List Char) : Decidable (ListsUnbroken quoting text) :=
  inferInstanceAs (Decidable (∀ _ ∈ _, _))

section Substitution

variable {quoting : Quoting} {c : Char} {text other names rest form : List Char}

/-- Behind part of a text, lists are as unbroken as in the whole. -/
theorem ListsUnbroken.of_append (whole : ListsUnbroken quoting (text ++ rest)) :
    ListsUnbroken (quoting.past text) rest := by
  intro entries member
  refine whole entries ((List.mem_tails _ _).mpr ?_)
  rw [seen_append]
  exact ((List.mem_tails _ _).mp member).trans (List.suffix_append _ _)

/-- So they are behind a character. -/
theorem ListsUnbroken.of_cons (whole : ListsUnbroken quoting (c :: text)) :
    ListsUnbroken (quoting.next c) text :=
  @of_append quoting [c] text whole

/-- Texts that look alike have their lists unbroken alike. -/
theorem ListsUnbroken.congr (same : seen isLoose quoting text = seen isLoose quoting other)
    (whole : ListsUnbroken quoting text) : ListsUnbroken quoting other := by
  rwa [ListsUnbroken, ← same]

/-- Behind an unbroken list all spans are closed, and no span in it holds a blank. -/
theorem of_unbroken (closes : ']' ∉ names)
    (whole : unbroken (seen isLoose quoting (names ++ ']' :: rest)) = true) :
    quoting.past names = .outside ∧
      ∀ entry ∈ scan quoting names, isBlank entry.2 = true → entry.1 = .outside := by
  induction names generalizing quoting with
  | nil =>
    rw [List.nil_append, seen_cons (.inr rfl)] at whole
    exact ⟨by simpa [unbroken] using whole, by simp [scan]⟩
  | cons c names ih =>
    obtain ⟨other, later⟩ := List.ne_and_not_mem_of_not_mem_cons closes
    rw [List.cons_append] at whole
    rcases seen_or_dropped isLoose quoting c with shown | ⟨rfl, unquoted, dropped⟩
    · -- Inside of a span, a character that is shown is no blank.
      rw [seen_cons shown, unbroken, if_neg other.symm] at whole
      obtain ⟨filled, behind⟩ := Bool.and_eq_true_iff.mp whole
      obtain ⟨closed, blanks⟩ := ih later behind
      refine ⟨closed, List.forall_mem_cons.mpr ⟨fun blank => ?_, blanks⟩⟩
      simp [blank] at filled
    · -- Behind a loose character the scanner is still outside.
      have left := Quoting.next_of_unmarked unquoted
      rw [seen_cons_of_drop unquoted dropped] at whole
      obtain ⟨closed, blanks⟩ := ih later whole
      rw [Quoting.past_cons, left, scan, left]
      exact ⟨closed, List.forall_mem_cons.mpr ⟨fun _ => rfl, blanks⟩⟩

/-- The pieces between blanks, parted by spaces, have the spans of the text if no span holds a blank. -/
theorem seen_cutAtBlanks
    (blanks : ∀ entry ∈ scan quoting names, isBlank entry.2 = true → entry.1 = .outside) :
    ∃ first others, cutAtBlanks names = first :: others ∧
      seen (fun _ => true) quoting (first ++ (others.filter (! ·.isEmpty)).flatMap (' ' :: ·)) =
        seen (fun _ => true) quoting names := by
  induction names generalizing quoting with
  | nil => exact ⟨[], [], rfl, rfl⟩
  | cons c names ih =>
    obtain ⟨first, later⟩ := List.forall_mem_cons.mp blanks
    obtain ⟨word, others, cut, same⟩ := ih later
    rw [cutAtBlanks, cut]
    by_cases blank : isBlank c = true
    · -- A blank parts two pieces, the first of which is empty here.
      obtain rfl : quoting = .outside := first blank
      have unquoted := isMark_of_isBlank blank
      have left := Quoting.next_of_unmarked unquoted
      rw [left] at same
      rw [if_pos blank]
      refine ⟨[], word :: others, rfl, ?_⟩
      rw [seen_cons_of_drop unquoted rfl, ← same]
      cases word with
      | nil => rfl
      | cons d word => exact seen_cons_of_drop rfl rfl
    · -- Any other character joins the piece behind it.
      rw [if_neg blank]
      exact ⟨c :: word, others, rfl, seen_cons_congr same⟩

/-- Words joined by spaces have the spans of the text if no span holds a blank. -/
theorem seen_words
    (blanks : ∀ entry ∈ scan .outside names, isBlank entry.2 = true → entry.1 = .outside) :
    seen (fun _ => true) .outside ([' '].intercalate (words names)) =
      seen (fun _ => true) .outside names := by
  obtain ⟨first, others, cut, same⟩ := seen_cutAtBlanks blanks
  rw [words, cut, ← same]
  cases first with
  | cons c first => exact congrArg _ (Text.intercalate_char ' ' (c :: first) _)
  | nil =>
    -- The first word is one of the pieces behind, and has no space in front of it.
    simp only [List.filter_cons, List.isEmpty_nil, Bool.not_true, Bool.false_eq_true, if_false,
      List.nil_append]
    cases others.filter (! ·.isEmpty) with
    | nil => rfl
    | cons word others =>
      rw [Text.intercalate_char]
      exact (seen_cons_of_drop rfl rfl).symm

/-- Whatever quotes nothing may stand around a text whose spans are closed. -/
theorem seen_around {front behind : List Char} (before : ∀ c ∈ front, isMark c = false)
    (after : ∀ c ∈ behind, isMark c = false) (closed : Quoting.outside.past names = .outside) :
    Quoting.outside.past (front ++ (names ++ behind)) = .outside ∧
      seen (fun _ => true) .outside (front ++ (names ++ behind)) =
        seen (fun _ => true) .outside names := by
  constructor
  · rw [Quoting.past_append, past_of_unmarked before, Quoting.past_append, closed,
      past_of_unmarked after]
  · rw [seen_append_of_drop before fun _ _ => rfl, seen_append, closed,
      seen_eq_nil_of_drop after fun _ _ => rfl, List.append_nil]

/-- A symbol has no spans, and neither has its form. -/
theorem seen_symbol? (found : symbol? text = some (form, rest)) :
    ∃ symbol, text = symbol ++ rest ∧ Quoting.outside.past symbol = .outside ∧
      seen (fun _ => true) .outside form = seen (fun _ => true) .outside symbol := by
  obtain ⟨symbol, listed, rfl⟩ := of_symbol? found
  have table : symbolForms.all (fun entry => (entry.1 ++ entry.2).all (! isMark ·)) = true := by
    decide
  obtain ⟨before, after⟩ : (∀ c ∈ symbol, isMark c = false) ∧ ∀ c ∈ form, isMark c = false := by
    simpa using List.all_eq_true.mp table _ listed
  refine ⟨symbol, rfl, past_of_unmarked before, ?_⟩
  rw [seen_eq_nil_of_drop after fun _ _ => rfl, seen_eq_nil_of_drop before fun _ _ => rfl]

/-- A binder has the spans that its form has if its list of variables is unbroken. -/
theorem seen_binder? (found : binder? text = some (form, rest))
    (whole : ListsUnbroken .outside text) :
    ∃ binder, text = binder ++ rest ∧ Quoting.outside.past binder = .outside ∧
      seen (fun _ => true) .outside form = seen (fun _ => true) .outside binder := by
  obtain ⟨quantifier, front, names, behind, rfl, mark, before, closes, after, rfl⟩ := of_binder? found
  have unquoted : isMark quantifier = false := by rcases mark with rfl | rfl <;> rfl
  have unmarked {blanks : List Char} (blank : AllBlank blanks) : ∀ c ∈ blanks, isMark c = false :=
    fun c member => isMark_of_isBlank (blank c member)
  -- Without loose characters the list of variables starts right behind the quantifier.
  have listed : unbroken (seen isLoose .outside (names ++ ']' :: (behind ++ ':' :: rest))) = true := by
    have start := whole _ ((List.mem_tails _ _).mpr (List.suffix_refl _))
    have firm : isLoose quantifier = false := by rcases mark with rfl | rfl <;> rfl
    have left := Quoting.next_of_unmarked unquoted
    have loose (c : Char) (member : c ∈ front) : isLoose c = true := by simp [isLoose, before c member]
    rw [seen_cons (.inr firm), left, seen_append_of_drop (unmarked before) loose,
      seen_cons (.inr rfl)] at start
    rcases mark with rfl | rfl <;> exact start
  obtain ⟨closed, blanks⟩ := of_unbroken closes listed
  have joined := seen_words blanks
  -- The binder and its form differ in what stands around the variables, which quotes nothing.
  have bracket : ∀ c ∈ ['['], isMark c = false := List.forall_mem_singleton.mpr rfl
  have colon : ∀ c ∈ [':'], isMark c = false := List.forall_mem_singleton.mpr rfl
  have opening : ∀ c ∈ quantifier :: (front ++ ['[']), isMark c = false :=
    List.forall_mem_cons.mpr ⟨unquoted, List.forall_mem_append.mpr ⟨unmarked before, bracket⟩⟩
  have closing : ∀ c ∈ ']' :: (behind ++ [':']), isMark c = false :=
    List.forall_mem_cons.mpr ⟨rfl, List.forall_mem_append.mpr ⟨unmarked after, colon⟩⟩
  have opened : ∀ c ∈ [quantifier, ' '], isMark c = false :=
    List.forall_mem_cons.mpr ⟨unquoted, List.forall_mem_singleton.mpr rfl⟩
  have ended : ∀ c ∈ [' ', '.'], isMark c = false :=
    List.forall_mem_cons.mpr ⟨rfl, List.forall_mem_singleton.mpr rfl⟩
  have given := seen_around opening closing closed
  have shown := seen_around opened ended ((past_congr joined).trans closed)
  refine ⟨_, ?_, given.1, ?_⟩
  · simp
  · exact shown.2.trans (joined.trans given.2.symm)

/-- Replacing symbols keeps the spans of a text whose lists of variables are unbroken. -/
theorem seen_substituteFrom (whole : ListsUnbroken quoting text) :
    seen (fun _ => true) quoting (substituteFrom quoting text) =
      seen (fun _ => true) quoting text := by
  fun_induction substituteFrom quoting text with
  | case1 => rfl
  | case2 quoting c rest covered ih => exact seen_cons_congr (ih whole.of_cons)
  | case3 quoting c rest uncovered form behind found ih =>
    obtain ⟨rfl, -, -⟩ := Quoting.of_not_covers (by simpa using uncovered)
    -- What is replaced shows the same spans as its replacement, and leaves all of them closed.
    obtain ⟨part, split, closed, same⟩ : ∃ part, c :: rest = part ++ behind ∧
        Quoting.outside.past part = .outside ∧
        seen (fun _ => true) .outside form = seen (fun _ => true) .outside part := by
      rcases Option.or_eq_some_iff.mp found with symbol | ⟨-, binder⟩
      · exact seen_symbol? symbol
      · exact seen_binder? binder whole
    rw [split] at whole ⊢
    have later := ih (closed ▸ whole.of_append)
    rw [seen_append, seen_append, past_congr same, closed, same, later]
  | case4 quoting c rest uncovered none ih =>
    obtain ⟨rfl, -, left⟩ := Quoting.of_not_covers (by simpa using uncovered)
    -- A character that is copied stays where it is.
    refine seen_cons_congr ?_
    have behind := whole.of_cons
    rw [left] at behind ⊢
    exact ih behind

end Substitution

/-- The first two passes change nothing that is seen without loose characters. -/
theorem seen_curryApplications {text : List Char} (plain : PlainlyQuoted .outside text) :
    seen isLoose .outside (curryApplications (groupQuantifiers text)) = seen isLoose .outside text := by
  have blanks (c : Char) (blank : isBlank c = true) : isLoose c = true := by simp [isLoose, blank]
  have grouped : seen isLoose .outside (groupQuantifiers text) = seen isLoose .outside text :=
    seen_groupFrom rfl rfl plain.closed 0 []
  rw [curryApplications, seen_spaceCommas blanks rfl,
    seen_curryFrom blanks rfl rfl rfl (plain.congr grouped.symm), grouped]

/-- Quoted text is carried over verbatim: if the spans of a formula are closed, no backslash protects
a mark in one that would end it, and none breaks a list of variables, then the spans of its HOL form
are closed and are the spans of the formula. -/
theorem spans_translate (formula : String) (closed : Terminated formula.toList)
    (unescaped : Unescaped .outside formula.toList)
    (whole : ListsUnbroken .outside formula.toList) :
    Terminated (translate formula).toList ∧
      spans (translate formula).toList = spans formula.toList := by
  have curried := seen_curryApplications ⟨unescaped, closed⟩
  -- Without anything outside spans all three passes show the same.
  have same : seen (fun _ => true) .outside (toHol formula.toList) =
      seen (fun _ => true) .outside formula.toList := by
    rw [toHol, substituteSymbols, seen_substituteFrom (whole.congr curried.symm)]
    exact seen_congr_of_drop (fun _ _ => rfl) curried
  rw [translate, String.toList_ofList]
  exact ⟨(past_congr same).trans closed, spansFrom_congr same⟩

/-- A comma in a span of an application is carried over with it, under a quantifier as well. -/
theorem spans_translate_application :
    Terminated "![X]:p(X,'it, is')".toList ∧ Unescaped .outside "![X]:p(X,'it, is')".toList ∧
      ListsUnbroken .outside "![X]:p(X,'it, is')".toList ∧
      spans (translate "![X]:p(X,'it, is')").toList = ["'it, is'".toList] :=
  ⟨by decide, by decide, by decide,
    (spans_translate "![X]:p(X,'it, is')" (by decide) (by decide) (by decide)).2⟩

/-- Where a backslash protects marks, an argument is cut at a comma in its span, which is lost. -/
theorem spans_translate_escaped :
    Terminated "p('it\\'s, isn\\'t it')".toList ∧
      spans "p('it\\'s, isn\\'t it')".toList = ["'it\\'s, isn\\'t it'".toList] ∧
      spans (translate "p('it\\'s, isn\\'t it')").toList = ["'it\\'s isn\\'t it'".toList] := by
  decide +kernel

/-- In a list of variables, blanks in a span are lost. -/
example : spans "![X,'a  b']:p".toList = ["'a  b'".toList] ∧
    spans (translate "![X,'a  b']:p").toList = ["'a b'".toList] := by
  decide +kernel

end Retrace.Formula
