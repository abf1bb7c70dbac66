import Retrace.Proofs.Formula.Nesting
import Retrace.Proofs.Formula.Parts
import Retrace.Proofs.Formula.Quoting

/-!
Quoted spans in HOL notation: a formula has the spans that it had in the trace, as long as plain
quotes read them alike and no list of variables is broken inside one.
-/

namespace Retrace.Formula

open Text (AllBlank isBlank trim)

variable {drop : Char → Bool} {quoting : Quoting} {c : Char} {text rest inner : List Char}

/-- Blanks are no marks. -/
theorem isMark_of_isBlank (blank : isBlank c = true) : isMark c = false := by
  cases mark : isMark c with
  | false => rfl
  | true =>
    -- There are two marks to look at.
    have either : c = '\x27' ∨ c = '"' := by simpa [isMark] using mark
    rcases either with rfl | rfl <;> cases blank

section Grouping

variable (opens : drop '(' = true) (closes : drop ')' = true)

include closes in
/-- The ends of scopes make no difference. -/
theorem seen_closing_append (scopes : List Nat) :
    seen drop .outside (closing scopes ++ rest) = seen drop .outside rest := by
  induction scopes with
  | nil => rfl
  | cons depth scopes ih => exact (seen_cons_of_drop rfl closes).trans ih

include opens closes in
/-- Grouping changes nothing that is seen without parentheses. -/
theorem seen_groupFrom (closed : quoting.past text = .outside) (depth : Nat) (scopes : List Nat) :
    seen drop quoting (groupFrom quoting depth scopes text) = seen drop quoting text := by
  induction text generalizing quoting depth scopes with
  | nil =>
    -- The scopes that are left are closed outside every span.
    obtain rfl : quoting = .outside := closed
    have ends : seen drop .outside (closing scopes ++ []) = seen drop .outside [] :=
      seen_closing_append closes scopes
    simpa [groupFrom] using ends
  | cons c text ih =>
    have behind (depth : Nat) (scopes : List Nat) :
        seen drop (quoting.next c) (groupFrom (quoting.next c) depth scopes text) =
          seen drop (quoting.next c) text :=
      ih closed depth scopes
    rw [groupFrom]
    -- Inside of a span nothing is put in, and outside of it only parentheses are.
    cases covered : quoting.covers c with
    | true => exact seen_cons_congr (behind depth scopes)
    | false =>
      obtain ⟨rfl, -, left⟩ := Quoting.of_not_covers covered
      -- Whatever happens behind it, the character itself is written as it stands.
      have written (depth : Nat) (scopes : List Nat) :
          seen drop .outside (c :: groupFrom .outside depth scopes text) =
            seen drop .outside (c :: text) := by
        refine seen_cons_congr ?_
        rw [left] at behind ⊢
        exact behind depth scopes
      rw [if_neg (by simp)]
      split
      · rw [seen_cons_of_drop rfl opens, written]
      split
      · exact written _ _
      split
      · rw [seen_closing_append closes]
        refine seen_cons_congr ?_
        rw [left] at behind ⊢
        rw [seen_closing_append closes, behind]
      · exact written _ _

end Grouping

section Currying

variable (blanks : ∀ c, isBlank c = true → drop c = true) (comma : drop ',' = true)
  (opens : drop '(' = true) (closes : drop ')' = true)

include blanks in
/-- Blanks in front make no difference. -/
theorem seen_dropWhile (text : List Char) :
    seen drop .outside (text.dropWhile isBlank) = seen drop .outside text := by
  conv => rhs; rw [← List.takeWhile_append_dropWhile (p := isBlank) (l := text)]
  rw [seen_append_of_drop]
  · exact fun c member => isMark_of_isBlank (List.mem_takeWhile_imp member)
  · exact fun c member => blanks c (List.mem_takeWhile_imp member)

include blanks in
/-- Blanks at the ends of a text make no difference if its spans are closed. -/
theorem seen_trim (closed : Quoting.outside.past text = .outside) :
    seen drop .outside (trim text) = seen drop .outside text := by
  obtain ⟨behind, blank, whole⟩ : ∃ behind, AllBlank behind ∧
      text.dropWhile isBlank = trim text ++ behind := (Text.trimEnd_eq_iff.mp rfl).1
  have front := seen_dropWhile blanks text
  -- The blanks behind the text stand outside every span.
  have kept : Quoting.outside.past (trim text) = .outside := by
    refine (Quoting.marked_outside.past _).outside_of_past
      (fun c member => isMark_of_isBlank (blank c member)) ?_
    rw [← Quoting.past_append, ← whole, past_congr front, closed]
  have nothing : seen drop .outside behind = [] :=
    seen_eq_nil_of_drop (fun c member => isMark_of_isBlank (blank c member))
      fun c member => blanks c (blank c member)
  rw [← front, whole, seen_append, kept, nothing, List.append_nil]

include comma in
/-- The pieces between separating commas are quoted plainly, and show what the text shows. -/
theorem seen_cutAtCommas {nesting : Nesting} (marked : quoting.Marked)
    (same : nesting.quote = quoting.mark?) (plain : PlainlyQuoted quoting text) :
    ∃ first others, cutAtCommas nesting text = first :: others ∧ PlainlyQuoted quoting first ∧
      (∀ piece ∈ others, PlainlyQuoted .outside piece) ∧
      seen drop quoting text = seen drop quoting first ++ others.flatMap (seen drop .outside) := by
  induction text generalizing quoting nesting with
  | nil => exact ⟨[], [], rfl, plain, by simp, rfl⟩
  | cons c text ih =>
    rw [cutAtCommas]
    by_cases separates : nesting.separates c = true
    · -- A comma separates outside every span only.
      obtain ⟨rfl, unquoted⟩ : c = ',' ∧ nesting.quote = none := by
        simp only [Nesting.separates, Bool.and_eq_true, beq_iff_eq, Option.isNone_iff_eq_none]
          at separates
        exact separates.1
      obtain rfl : quoting = .outside := Quoting.mark?_eq_none_iff.mp (same ▸ unquoted)
      have behind := plain.of_cons.2
      obtain ⟨first, others, cut, start, later, shown⟩ := ih Quoting.marked_outside same behind
      rw [if_pos separates, cut]
      refine ⟨[], first :: others, rfl, .nil, List.forall_mem_cons.mpr ⟨start, later⟩, ?_⟩
      rw [seen_cons_of_drop rfl comma, shown]
      rfl
    · -- Any other character joins the first of the pieces behind it.
      obtain ⟨unescaped, behind⟩ := plain.of_cons
      have toggled : (nesting.next c).quote = (quoting.next c).mark? :=
        (congrArg (toggle · c) same).trans (toggle_mark? marked unescaped)
      obtain ⟨first, others, cut, start, later, shown⟩ := ih (marked.next c) toggled behind
      rw [if_neg separates, cut]
      refine ⟨c :: first, others, rfl, start.cons unescaped, later, ?_⟩
      have split (text : List Char) := seen_append drop quoting [c] text
      simp only [List.singleton_append, Quoting.past_cons, Quoting.past_nil] at split
      rw [split text, split first, shown, List.append_assoc]

/-- Empty pieces show nothing. -/
theorem flatMap_filter_not_isEmpty (drop : Char → Bool) (pieces : List (List Char)) :
    (pieces.filter (! ·.isEmpty)).flatMap (seen drop .outside) =
      pieces.flatMap (seen drop .outside) := by
  induction pieces with
  | nil => rfl
  | cons piece pieces ih => cases piece <;> simp [ih]

include blanks comma in
/-- The arguments of an application are quoted plainly if the text between its parentheses is, and show
what the text shows. -/
theorem seen_argumentsOf (plain : PlainlyQuoted .outside inner) :
    (∀ argument ∈ argumentsOf inner, PlainlyQuoted .outside argument) ∧
      (argumentsOf inner).flatMap (seen drop .outside) = seen drop .outside inner := by
  have unquoted : ({} : Nesting).quote = Quoting.outside.mark? := rfl
  obtain ⟨first, others, cut, start, later, shown⟩ :=
    seen_cutAtCommas comma Quoting.marked_outside unquoted plain
  -- The first piece is read from outside, and so is every later one.
  have pieces : ∀ piece ∈ first :: others, PlainlyQuoted .outside piece :=
    List.forall_mem_cons.mpr ⟨start, later⟩
  have trimmed (piece : List Char) (member : piece ∈ first :: others) :
      seen drop .outside (trim piece) = seen drop .outside piece :=
    seen_trim blanks (pieces piece member).closed
  rw [argumentsOf, cut]
  -- Neither trimming the pieces nor leaving out empty ones changes what is seen of them.
  constructor
  · intro argument member
    obtain ⟨piece, among, rfl⟩ := List.mem_map.mp (List.mem_filter.mp member).1
    exact (pieces piece among).congr (trimmed piece among).symm
  · rw [flatMap_filter_not_isEmpty, List.flatMap_map, shown]
    exact congrArg List.flatten (List.map_congr_left trimmed)

/-- Behind what stands in a group no plain quote is open. -/
theorem toggle_of_splitGroup {quote : Option Char} {depth : Nat}
    (split : splitGroup quote depth text = some (inner, rest)) :
    inner.foldl toggle quote = none := by
  induction text generalizing quote depth inner with
  | nil => cases split
  | cons c text ih =>
    rw [splitGroup] at split
    split at split
    · -- The parenthesis that closes the group stands outside quotes.
      rename_i closes
      obtain ⟨rfl, rfl⟩ : [] = inner ∧ text = rest := by simpa using split
      simpa using closes.1
    · obtain ⟨⟨before, behind⟩, found, same⟩ := Option.map_eq_some_iff.mp split
      obtain ⟨rfl, rfl⟩ : c :: before = inner ∧ behind = rest := by simpa using same
      rw [List.foldl_cons, ih found]

/-- What stands in a group and behind it is quoted plainly if both are together. -/
theorem PlainlyQuoted.of_splitGroup (plain : PlainlyQuoted .outside (inner ++ ')' :: rest))
    (split : splitGroup none 0 (inner ++ ')' :: rest) = some (inner, rest)) :
    PlainlyQuoted .outside inner ∧ PlainlyQuoted .outside rest := by
  -- The group is closed where no plain quote is open, which is outside every span.
  have closed : Quoting.outside.past inner = .outside := by
    have unescaped := (unescaped_append_iff.mp plain.unescaped).1
    rw [← Quoting.mark?_eq_none_iff, ← foldl_toggle Quoting.marked_outside unescaped]
    exact toggle_of_splitGroup split
  obtain ⟨inside, behind⟩ := plain.of_append closed
  exact ⟨inside, behind.of_cons.2⟩

include blanks comma opens closes in
/-- The parts of an application are quoted plainly if the text is that it starts, and show what the
text shows. -/
theorem seen_application? {found : Application} (starts : application? text = some found)
    (plain : PlainlyQuoted .outside text) :
    (∀ argument ∈ found.arguments, PlainlyQuoted .outside argument) ∧
      PlainlyQuoted .outside found.rest ∧ Quoting.outside.past found.head = .outside ∧
      seen drop .outside found.head ++ (found.arguments.flatMap (seen drop .outside) ++
        seen drop .outside found.rest) = seen drop .outside text := by
  obtain ⟨inner, rfl, symbolic, arguments, split⟩ := of_application? starts
  have head : Quoting.outside.past found.head = .outside :=
    past_of_unmarked fun c member => isMark_of_isSymbolChar (symbolic c member)
  obtain ⟨inside, behind⟩ := (plain.of_append head).2.of_cons.2.of_splitGroup split
  obtain ⟨quoted, shown⟩ := seen_argumentsOf blanks comma inside
  refine ⟨arguments ▸ quoted, behind, head, ?_⟩
  -- The parentheses of the group are not seen.
  rw [arguments, shown, seen_append, head, seen_cons_of_drop rfl opens, seen_append, inside.closed,
    seen_cons_of_drop rfl closes]

include blanks in
/-- Texts with spaces in front of them show what they show alone, if their spans are closed. -/
theorem seen_spaced {pieces : List (List Char)}
    (closed : ∀ piece ∈ pieces, Quoting.outside.past piece = .outside) (rest : List Char) :
    seen drop .outside (pieces.flatMap (' ' :: ·) ++ rest) =
      pieces.flatMap (seen drop .outside) ++ seen drop .outside rest := by
  induction pieces with
  | nil => rfl
  | cons piece pieces ih =>
    obtain ⟨first, later⟩ := List.forall_mem_cons.mp closed
    simp only [List.flatMap_cons, List.cons_append, List.append_assoc]
    rw [seen_cons_of_drop rfl (blanks ' ' rfl), seen_append, first, ih later]

include blanks comma opens closes in
/-- Currying changes nothing that is seen without blanks, commas and parentheses. -/
theorem seen_curryFrom {inSymbol : Bool} (plain : PlainlyQuoted quoting text) :
    seen drop quoting (curryFrom quoting inSymbol text) = seen drop quoting text := by
  fun_induction curryFrom quoting inSymbol text with
  | case1 => rfl
  | case2 quoting inSymbol c rest covered ih => exact seen_cons_congr (ih plain.of_cons.2)
  | case3 quoting inSymbol c rest uncovered application found arguments ih =>
    obtain ⟨rfl, -, -⟩ := Quoting.of_not_covers (by simpa using uncovered)
    -- The recursion keeps the application together with the reason why there is one.
    have starts : application? (c :: rest) = some application := by
      split at found
      · cases found
      · exact found
    obtain ⟨quoted, behind, head, shown⟩ :=
      seen_application? blanks comma opens closes starts plain
    -- Every argument shows what it is read from, and closes its spans.
    have curried (argument : { argument // argument ∈ application.arguments }) :
        seen drop .outside (curryFrom .outside false argument.1) = seen drop .outside argument.1 :=
      arguments argument (quoted argument.1 argument.2)
    let pieces := application.arguments.attach.map fun argument =>
      curryFrom .outside false argument.1
    have closed : ∀ piece ∈ pieces, Quoting.outside.past piece = .outside := by
      intro piece member
      obtain ⟨argument, -, rfl⟩ := List.mem_map.mp member
      rw [past_congr (curried argument)]
      exact (quoted argument.1 argument.2).closed
    have listed : pieces.flatMap (seen drop .outside) =
        application.arguments.flatMap (seen drop .outside) := by
      conv => rhs; rw [← List.attach_map_subtype_val application.arguments]
      rw [List.flatMap_map, List.flatMap_map]
      exact congrArg List.flatten (List.map_congr_left fun argument _ => curried argument)
    -- In front of every argument there is a blank, which is not seen.
    have written : (application.arguments.attach.flatMap fun argument =>
        ' ' :: curryFrom .outside false argument.1) = pieces.flatMap (' ' :: ·) := by
      rw [List.flatMap_map]
    rw [written, List.append_assoc, List.cons_append, seen_cons_of_drop rfl opens, seen_append, head,
      seen_spaced blanks closed, seen_cons_of_drop rfl closes, ih behind, listed, shown]
  | case4 quoting inSymbol c rest uncovered none ih =>
    obtain ⟨rfl, -, left⟩ := Quoting.of_not_covers (by simpa using uncovered)
    refine seen_cons_congr ?_
    have behind := plain.of_cons.2
    rw [left] at behind ⊢
    exact ih behind

include blanks comma in
/-- Spaces for commas change nothing that is seen without blanks and commas. -/
theorem seen_spaceCommas (quoting : Quoting) (text : List Char) :
    seen drop quoting (spaceCommas quoting text) = seen drop quoting text := by
  induction text generalizing quoting with
  | nil => rfl
  | cons c text ih =>
    rw [spaceCommas]
    by_cases parts : c = ',' ∧ ¬ quoting.covers c
    · -- A comma and a space are dropped alike.
      obtain ⟨rfl, uncovered⟩ := parts
      obtain ⟨rfl, -, left⟩ := Quoting.of_not_covers (by simpa using uncovered)
      rw [if_pos ⟨rfl, uncovered⟩, left, seen_cons_of_drop rfl comma,
        seen_cons_of_drop rfl (blanks ' ' rfl), ih]
    · rw [if_neg parts]
      exact seen_cons_congr (ih _)

end Currying

end Retrace.Formula
