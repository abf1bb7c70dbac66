import Retrace.Proofs.Formula.Parts

/-!
The characters of a formula in HOL notation: each stands in the formula as the trace has it, or is
one of the few that the passes write themselves.
-/

namespace Retrace

namespace Formula

variable {c : Char} {text : List Char}

/-- The characters that the passes write themselves. -/
def ownCharacters : List Char :=
  "() .=->~TrueFals".toList

/-- Grouping adds parentheses only. -/
theorem mem_groupFrom {quoting : Quoting} {depth : Nat} {scopes : List Nat}
    (member : c ∈ groupFrom quoting depth scopes text) : c ∈ text ∨ c ∈ ownCharacters := by
  have closed (scopes : List Nat) (member : c ∈ closing scopes) : c ∈ ownCharacters := by
    obtain ⟨_, -, rfl⟩ := List.mem_map.mp member
    decide
  induction text generalizing quoting depth scopes with
  | nil => exact .inr (closed scopes member)
  | cons d text ih =>
    -- Every character that is read is written again, with parentheses around it.
    have first (same : c = d) : c ∈ d :: text ∨ c ∈ ownCharacters := .inl (by simp [same])
    have later (among : c ∈ text ∨ c ∈ ownCharacters) : c ∈ d :: text ∨ c ∈ ownCharacters :=
      among.imp_left (List.mem_cons_of_mem _)
    rw [groupFrom] at member
    split at member
    · exact (List.mem_cons.mp member).elim first fun rest => later (ih rest)
    split at member
    · rcases List.mem_cons.mp member with rfl | rest
      · exact .inr (by decide)
      · exact (List.mem_cons.mp rest).elim first fun rest => later (ih rest)
    split at member
    · exact (List.mem_cons.mp member).elim first fun rest => later (ih rest)
    split at member
    · -- Behind a parenthesis that closes, scopes end on both sides of it.
      rcases List.mem_append.mp member with ends | rest
      · exact .inr (closed _ ends)
      rcases List.mem_cons.mp rest with same | rest
      · exact first same
      rcases List.mem_append.mp rest with ends | rest
      · exact .inr (closed _ ends)
      · exact later (ih rest)
    · exact (List.mem_cons.mp member).elim first fun rest => later (ih rest)

/-- The pieces between commas hold characters of the text only. -/
theorem mem_of_mem_cutAtCommas {nesting : Nesting} {piece : List Char}
    (cut : piece ∈ cutAtCommas nesting text) (member : c ∈ piece) : c ∈ text := by
  induction text generalizing nesting piece with
  | nil =>
    rw [List.mem_singleton.mp cut] at member
    cases member
  | cons d text ih =>
    -- A separating comma belongs to no piece.
    rw [cutAtCommas] at cut
    split at cut
    · rcases List.mem_cons.mp cut with rfl | later
      · cases member
      · exact List.mem_cons_of_mem _ (ih later member)
    · split at cut
      · rw [List.mem_singleton.mp cut] at member
        simp_all
      · -- Any other character stands in front of the first piece.
        rename_i first others pieces
        rcases List.mem_cons.mp cut with rfl | later
        · rcases List.mem_cons.mp member with rfl | inside
          · exact List.mem_cons_self
          · exact List.mem_cons_of_mem _ (ih (pieces ▸ List.mem_cons_self) inside)
        · exact List.mem_cons_of_mem _ (ih (pieces ▸ List.mem_cons_of_mem _ later) member)

/-- The parts of an application hold characters of the text that it starts only. -/
theorem mem_of_application? {found : Application} (starts : application? text = some found)
    (member : c ∈ found.head ∨ (∃ argument ∈ found.arguments, c ∈ argument) ∨ c ∈ found.rest) :
    c ∈ text := by
  obtain ⟨inner, rfl, -, arguments, -⟩ := of_application? starts
  rcases member with head | ⟨argument, among, held⟩ | behind
  · exact List.mem_append_left _ head
  · -- An argument is a trimmed piece of what the group encloses.
    rw [arguments] at among
    obtain ⟨trimmed, -⟩ := List.mem_filter.mp among
    obtain ⟨piece, cut, rfl⟩ := List.mem_map.mp trimmed
    simp [mem_of_mem_cutAtCommas cut (Text.mem_of_mem_trim held)]
  · simp [behind]

/-- Currying adds parentheses and spaces only. -/
theorem mem_curryFrom {quoting : Quoting} {inSymbol : Bool}
    (member : c ∈ curryFrom quoting inSymbol text) : c ∈ text ∨ c ∈ ownCharacters := by
  fun_induction curryFrom quoting inSymbol text with
  | case1 => exact .inl member
  | case2 quoting inSymbol d rest covered ih =>
    rcases List.mem_cons.mp member with rfl | later
    · exact .inl List.mem_cons_self
    · exact (ih later).imp_left (List.mem_cons_of_mem _)
  | case3 quoting inSymbol d rest uncovered application found arguments ih =>
    -- The head, the arguments and the rest are parts of the text.
    have starts : application? (d :: rest) = some application := by
      split at found
      · cases found
      · exact found
    -- In between there are spaces and the two parentheses.
    simp only [List.mem_append, List.mem_cons, List.mem_flatMap] at member
    rcases member with ((rfl | head) | ⟨argument, -, rfl | held⟩) | rfl | behind
    · exact .inr (by decide)
    · exact .inl (mem_of_application? starts (.inl head))
    · exact .inr (by decide)
    · exact (arguments argument held).imp_left fun inside =>
        mem_of_application? starts (.inr (.inl ⟨argument.1, argument.2, inside⟩))
    · exact .inr (by decide)
    · exact (ih behind).imp_left fun inside => mem_of_application? starts (.inr (.inr inside))
  | case4 quoting inSymbol d rest uncovered none ih =>
    rcases List.mem_cons.mp member with rfl | later
    · exact .inl List.mem_cons_self
    · exact (ih later).imp_left (List.mem_cons_of_mem _)

/-- Commas become spaces. -/
theorem mem_spaceCommas {quoting : Quoting} (member : c ∈ spaceCommas quoting text) :
    c ∈ text ∨ c ∈ ownCharacters := by
  induction text generalizing quoting with
  | nil => exact .inl member
  | cons d text ih =>
    -- Each character stays or becomes a space.
    rcases List.mem_cons.mp member with same | later
    · split at same
      · exact .inr (same ▸ by decide)
      · exact .inl (same ▸ List.mem_cons_self)
    · exact (ih later).imp_left (List.mem_cons_of_mem _)

/-- What follows a symbol stands in the text, and its form is written by the pass. -/
theorem mem_of_symbol? {form rest : List Char} (found : symbol? text = some (form, rest)) :
    (c ∈ form → c ∈ ownCharacters) ∧ (c ∈ rest → c ∈ text) := by
  obtain ⟨symbol, member, rfl⟩ := of_symbol? found
  -- There are five forms to look through.
  have table : ∀ entry ∈ symbolForms, entry.2 ⊆ ownCharacters := by decide
  exact ⟨fun among => table _ member among, List.mem_append_right symbol⟩

/-- A binder keeps its quantifier and the names of its variables. -/
theorem mem_of_binder? {form rest : List Char} (found : binder? text = some (form, rest)) :
    (c ∈ form → c ∈ text ∨ c ∈ ownCharacters) ∧ (c ∈ rest → c ∈ text) := by
  obtain ⟨quantifier, front, names, behind, rfl, -, -, -, -, rfl⟩ := of_binder? found
  refine ⟨fun member => ?_, fun after => by simp [after]⟩
  have space : ' ' ∈ ownCharacters := by decide
  -- The form is the quantifier, a space, the variables with spaces between them, and a full stop.
  rcases List.mem_cons.mp member with rfl | parted
  · exact .inl List.mem_cons_self
  rcases List.mem_cons.mp parted with rfl | shown
  · exact .inr space
  rcases List.mem_append.mp shown with among | mark
  · -- What is joined are the words between the brackets.
    rcases Text.mem_intercalate among with parting | ⟨name, word, held⟩
    · exact .inr (List.mem_singleton.mp parting ▸ space)
    · have listed := Text.mem_of_mem_cutAtBlanks (List.mem_filter.mp word).1 held
      exact .inl (by simp [listed])
  · have table : [' ', '.'] ⊆ ownCharacters := by decide
    exact .inr (table mark)

/-- Symbols and binders in HOL form add no other characters. -/
theorem mem_substituteFrom {quoting : Quoting} (member : c ∈ substituteFrom quoting text) :
    c ∈ text ∨ c ∈ ownCharacters := by
  fun_induction substituteFrom quoting text with
  | case1 => exact .inl member
  | case2 quoting d rest covered ih =>
    rcases List.mem_cons.mp member with rfl | later
    · exact .inl List.mem_cons_self
    · exact (ih later).imp_left (List.mem_cons_of_mem _)
  | case3 quoting d rest uncovered form behind found ih =>
    -- What is found is a symbol of the table or a binder.
    have parts : (c ∈ form → c ∈ d :: rest ∨ c ∈ ownCharacters) ∧ (c ∈ behind → c ∈ d :: rest) := by
      rcases Option.or_eq_some_iff.mp found with symbol | ⟨-, binder⟩
      · exact (mem_of_symbol? symbol).imp_left fun own among => .inr (own among)
      · exact mem_of_binder? binder
    -- The rest is read on behind what was found.
    rcases List.mem_append.mp member with written | later
    · exact parts.1 written
    · exact (ih later).imp_left parts.2
  | case4 quoting d rest uncovered none ih =>
    rcases List.mem_cons.mp member with rfl | later
    · exact .inl List.mem_cons_self
    · exact (ih later).imp_left (List.mem_cons_of_mem _)

/-- A formula in HOL notation holds characters of the given one, and those of the passes. -/
theorem mem_toHol (member : c ∈ toHol text) : c ∈ text ∨ c ∈ ownCharacters := by
  -- The three passes are traced back from the last one.
  rcases mem_substituteFrom member with curried | own
  · rcases mem_spaceCommas curried with applied | own
    · rcases mem_curryFrom applied with grouped | own
      · exact mem_groupFrom grouped
      · exact .inr own
    · exact .inr own
  · exact .inr own

end Formula

end Retrace
