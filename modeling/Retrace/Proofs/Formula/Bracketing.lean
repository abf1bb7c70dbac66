import Retrace.Proofs.Formula.Quoting

/-!
Brackets of a formula outside its quoted spans: which of them are awaited behind a text, and how a
nesting tells as much of a text in which no backslash protects a mark. The groups and the pieces that
a nested text is cut into are nested as well.
-/

namespace Retrace.Formula

open Text (isBlank)

/-- The characters of a text that stand outside its quoted spans. -/
def unquoted (quoting : Quoting) (text : List Char) : List Char :=
  ((scan quoting text).filter fun entry => ! entry.1.covers entry.2).map (·.2)

/-- The closing brackets that are awaited behind one more character, innermost first. There is no
answer if the character is a closing bracket other than the first one awaited. -/
def await? (awaited : List Char) (c : Char) : Option (List Char) :=
  if c = '(' then some (')' :: awaited)
  else if c = '[' then some (']' :: awaited)
  else if c = ')' ∨ c = ']' then
    match awaited with
    | closing :: others => if c = closing then some others else none
    | [] => none
  else some awaited

/-- The closing brackets that are awaited behind a text, if all before them are nested. -/
def awaitedBehind? (text : List Char) : Option (List Char) :=
  text.foldlM await? []

/-- Round and square brackets outside quoted spans are balanced and nested. -/
def Nested (text : List Char) : Prop :=
  awaitedBehind? (unquoted .outside text) = some []

instance (text : List Char) : Decidable (Nested text) :=
  inferInstanceAs (Decidable (_ = _))

/-- A text closes the brackets that are awaited in front of it, and those that it opens itself. -/
def NestedFrom (quoting : Quoting) (awaited text : List Char) : Prop :=
  (unquoted quoting text).foldlM await? awaited = some []

variable {quoting : Quoting} {nesting : Nesting} {awaited after text : List Char} {c : Char}

/-- What is unquoted of two texts is what is unquoted of the one and then of the other. -/
theorem unquoted_append (quoting : Quoting) (text rest : List Char) :
    unquoted quoting (text ++ rest) = unquoted quoting text ++ unquoted (quoting.past text) rest := by
  rw [unquoted, scan_append, List.filter_append, List.map_append]
  rfl

/-- A character of a span is left out. -/
theorem unquoted_cons_of_covers (covered : quoting.covers c = true) :
    unquoted quoting (c :: text) = unquoted (quoting.next c) text := by
  rw [unquoted, scan, List.filter_cons_of_neg (by simp [covered])]
  rfl

/-- A character outside every span is kept. -/
theorem unquoted_cons (uncovered : quoting.covers c = false) :
    unquoted quoting (c :: text) = c :: unquoted (quoting.next c) text := by
  rw [unquoted, scan, List.filter_cons_of_pos (by simp [uncovered])]
  rfl

/-- All of a text is unquoted if there are no marks in it. -/
theorem unquoted_of_unmarked (unmarked : ∀ c ∈ text, isMark c = false) :
    unquoted .outside text = text := by
  induction text with
  | nil => rfl
  | cons c text ih =>
    obtain ⟨first, later⟩ := List.forall_mem_cons.mp unmarked
    rw [unquoted_cons (by simpa using first), Quoting.next_of_unmarked first, ih later]

/-- A nesting tells the mark of the span that a scanner stands in, and how many brackets are awaited. -/
structure Nesting.Tells (nesting : Nesting) (quoting : Quoting) (awaited : List Char) : Prop where
  quote : nesting.quote = quoting.mark?
  depth : nesting.depth = awaited.length

/-- In a span no bracket counts. -/
theorem Nesting.Tells.covered (tells : nesting.Tells quoting awaited) (marked : quoting.Marked)
    (unescaped : quoting ≠ .escaped c) (covered : quoting.covers c = true) :
    (nesting.next c).Tells (quoting.next c) awaited where
  quote := (congrArg (toggle · c) tells.quote).trans (toggle_mark? marked unescaped)
  depth := by
    rw [← tells.depth, Nesting.next]
    cases quoting with
    | outside =>
      -- Neither of the marks that open a span is a bracket.
      have mark : c = '\x27' ∨ c = '"' := by simpa [isMark] using covered
      rcases mark with rfl | rfl <;> simp
    | inside mark => simp [tells.quote, Quoting.mark?]
    | escaped mark => simp [tells.quote, Quoting.mark?]

/-- Outside every span brackets are counted as they are awaited. -/
theorem Nesting.Tells.uncovered (tells : nesting.Tells .outside awaited) (unmarked : isMark c = false)
    (found : await? awaited c = some after) : (nesting.next c).Tells .outside after where
  quote := by simp [Nesting.next, tells.quote, Quoting.mark?, toggle, unmarked]
  depth := by
    have unquoted : nesting.quote.isSome = false := by simp [tells.quote, Quoting.mark?]
    rw [Nesting.next, tells.depth]
    unfold await? at found
    split at found
    · -- An opening bracket has its partner awaited first.
      rename_i opens
      obtain rfl := Option.some.inj found
      simp [unquoted, opens]
    split at found
    · rename_i opens
      obtain rfl := Option.some.inj found
      simp [unquoted, opens]
    split at found
    · -- A closing bracket is the first one awaited, and is not awaited any more.
      rename_i closes
      split at found
      · split at found
        · obtain rfl := Option.some.inj found
          rcases closes with rfl | rfl <;> simp [unquoted]
        · cases found
      · cases found
    · rename_i round square closes
      obtain rfl := Option.some.inj found
      simp [unquoted, round, square, closes]

/-- Before any text, nothing is quoted and nothing awaited. -/
theorem Nesting.tells_start : Nesting.Tells {} .outside [] where
  quote := rfl
  depth := rfl

section Parts

variable {inside : List Char}

/-- A character that is no bracket changes nothing of what is awaited. -/
theorem await?_of_ne (other : ∀ d ∈ ['(', '[', ')', ']'], c ≠ d) :
    await? awaited c = some awaited := by
  unfold await?
  simp_all

/-- Characters of spans make no difference to brackets. -/
theorem nestedFrom_cons_of_covers (covered : quoting.covers c = true) :
    NestedFrom quoting awaited (c :: text) ↔ NestedFrom (quoting.next c) awaited text := by
  rw [NestedFrom, NestedFrom, unquoted_cons_of_covers covered]

/-- Outside spans a character changes what is awaited behind it. -/
theorem nestedFrom_cons (unmarked : isMark c = false) :
    NestedFrom .outside awaited (c :: text) ↔
      ∃ between, await? awaited c = some between ∧ NestedFrom .outside between text := by
  rw [NestedFrom, unquoted_cons (by simpa using unmarked), Quoting.next_of_unmarked unmarked,
    List.foldlM_cons]
  exact Option.bind_eq_some_iff

/-- No bracket is awaited behind a text that is nested. -/
theorem nestedFrom_nil_iff : NestedFrom quoting awaited [] ↔ awaited = [] :=
  Option.some_inj

/-- A character either closes a group whose parenthesis is awaited, or changes what is awaited inside
it and nothing else. -/
theorem of_await? (found : await? (inside ++ ')' :: awaited) c = some after) :
    (c = ')' ∧ inside = [] ∧ after = awaited) ∨
      ∃ within, await? inside c = some within ∧ after = within ++ ')' :: awaited := by
  unfold await? at found
  split at found
  · -- A bracket that opens is closed inside the group.
    rename_i opens
    obtain rfl := Option.some.inj found
    exact .inr ⟨')' :: inside, by simp [await?, opens], rfl⟩
  split at found
  · rename_i opens
    obtain rfl := Option.some.inj found
    exact .inr ⟨']' :: inside, by simp [await?, opens], rfl⟩
  split at found
  · -- The first bracket that is awaited is the one of the group or stands inside it.
    rename_i round square closes
    cases inside with
    | nil =>
      obtain ⟨rfl, rfl⟩ : c = ')' ∧ awaited = after := by simpa using found
      exact .inl ⟨rfl, rfl, rfl⟩
    | cons closing inside =>
      obtain ⟨rfl, rfl⟩ : c = closing ∧ inside ++ ')' :: awaited = after := by simpa using found
      exact .inr ⟨inside, by simp [await?, round, square, closes], rfl⟩
  · rename_i round square closes
    obtain rfl := Option.some.inj found
    exact .inr ⟨inside, by simp [await?, round, square, closes], rfl⟩

/-- How many groups are open is told by the parentheses that are awaited. -/
theorem count_of_await? (found : await? awaited c = some after) :
    after.count ')' = (if c = '(' then awaited.count ')' + 1
        else if c = ')' then awaited.count ')' - 1 else awaited.count ')') ∧
      (c = ')' → awaited.count ')' ≠ 0) := by
  unfold await? at found
  split at found
  · -- A parenthesis that opens is awaited once more, and a square bracket is none.
    rename_i opens
    obtain rfl := Option.some.inj found
    simp [opens]
  split at found
  · rename_i opens
    obtain rfl := Option.some.inj found
    simp [opens]
  split at found
  · rename_i closes
    split at found
    · -- The bracket that closes is the first one awaited.
      split at found
      · rename_i same
        obtain rfl := Option.some.inj found
        subst same
        rcases closes with rfl | rfl <;> simp
      · cases found
    · cases found
  · rename_i round square closes
    obtain rfl := Option.some.inj found
    rw [not_or] at closes
    simp [round, closes.1]

/-- A text closes the group that it stands in if its parenthesis is awaited. What is enclosed closes
the brackets that are awaited before it, and what follows the group closes those behind. -/
theorem splitGroup_of_nested (marked : quoting.Marked) (plain : PlainlyQuoted quoting text)
    (nested : NestedFrom quoting (inside ++ ')' :: awaited) text) :
    ∃ inner rest, splitGroup quoting.mark? (inside.count ')') text = some (inner, rest) ∧
      NestedFrom quoting inside inner ∧ NestedFrom .outside awaited rest := by
  induction text generalizing quoting inside with
  | nil => simp [nestedFrom_nil_iff] at nested
  | cons c text ih =>
    obtain ⟨unescaped, behind⟩ := plain.of_cons
    rw [splitGroup, toggle_mark? marked unescaped]
    cases covered : quoting.covers c with
    | true =>
      rw [nestedFrom_cons_of_covers covered] at nested
      obtain ⟨inner, rest, split, enclosed, after⟩ := ih (marked.next c) behind nested
      -- In a span nothing opens or closes a group.
      have quoted : quoting.mark?.isSome = true ∨ c ≠ '(' ∧ c ≠ ')' := by
        cases quoting with
        | outside =>
          refine .inr ⟨?_, ?_⟩ <;> rintro rfl <;> cases covered
        | inside mark => exact .inl rfl
        | escaped mark => exact .inl rfl
      refine ⟨c :: inner, rest, ?_, (nestedFrom_cons_of_covers covered).mpr enclosed, after⟩
      rcases quoted with quoted | ⟨opens, closes⟩
      · simp [Option.isNone_iff_eq_none, Option.isSome_iff_ne_none.mp quoted, quoted, split]
      · simp [opens, closes, split]
    | false =>
      obtain ⟨rfl, unmarked, left⟩ := Quoting.of_not_covers covered
      rw [left] at behind
      obtain ⟨between, found, nested⟩ := (nestedFrom_cons unmarked).mp nested
      rcases of_await? found with ⟨rfl, rfl, rfl⟩ | ⟨within, step, rfl⟩
      · -- The parenthesis of the group ends what it encloses.
        refine ⟨[], text, by simp [Quoting.mark?], nestedFrom_nil_iff.mpr rfl, ?_⟩
        exact nested
      · -- Any other character stands inside the group, at the depth that is left.
        obtain ⟨depth, inner⟩ := count_of_await? step
        obtain ⟨enclosed, rest, split, started, after⟩ := ih Quoting.marked_outside behind nested
        have stays : ¬ (c = ')' ∧ inside.count ')' = 0) := fun closes => inner closes.1 closes.2
        refine ⟨c :: enclosed, rest, ?_, (nestedFrom_cons unmarked).mpr ⟨within, step, started⟩, after⟩
        simp only [depth, Quoting.mark?] at split
        simp [left, Quoting.mark?, stays, split]

/-- The pieces between separating commas are nested if the text is. -/
theorem cutAtCommas_of_nested (tells : nesting.Tells quoting awaited) (marked : quoting.Marked)
    (plain : PlainlyQuoted quoting text) (nested : NestedFrom quoting awaited text) :
    ∃ first others, cutAtCommas nesting text = first :: others ∧ NestedFrom quoting awaited first ∧
      ∀ piece ∈ others, Nested piece := by
  induction text generalizing nesting quoting awaited with
  | nil => exact ⟨[], [], rfl, nested, by simp⟩
  | cons c text ih =>
    obtain ⟨unescaped, behind⟩ := plain.of_cons
    rw [cutAtCommas]
    by_cases separates : nesting.separates c = true
    · -- A comma that separates stands outside spans, where nothing is awaited.
      obtain ⟨⟨rfl, unquoted⟩, shallow⟩ : (c = ',' ∧ nesting.quote = none) ∧ nesting.depth = 0 := by
        simpa [Nesting.separates] using separates
      obtain rfl : quoting = .outside := Quoting.mark?_eq_none_iff.mp (tells.quote.symm.trans unquoted)
      obtain rfl : awaited = [] := List.eq_nil_of_length_eq_zero (tells.depth.symm.trans shallow)
      obtain ⟨between, found, later⟩ := (nestedFrom_cons rfl).mp nested
      obtain rfl : [] = between := Option.some.inj found
      obtain ⟨first, others, cut, start, pieces⟩ := ih tells Quoting.marked_outside behind later
      rw [if_pos separates, cut]
      exact ⟨[], first :: others, rfl, nestedFrom_nil_iff.mpr rfl,
        List.forall_mem_cons.mpr ⟨start, pieces⟩⟩
    · -- Any other character joins the first of the pieces behind it.
      rw [if_neg separates]
      cases covered : quoting.covers c with
      | true =>
        rw [nestedFrom_cons_of_covers covered] at nested
        obtain ⟨first, others, cut, start, pieces⟩ :=
          ih (tells.covered marked unescaped covered) (marked.next c) behind nested
        rw [cut]
        exact ⟨c :: first, others, rfl, (nestedFrom_cons_of_covers covered).mpr start, pieces⟩
      | false =>
        obtain ⟨rfl, unmarked, left⟩ := Quoting.of_not_covers covered
        obtain ⟨between, found, later⟩ := (nestedFrom_cons unmarked).mp nested
        rw [left] at behind
        obtain ⟨first, others, cut, start, pieces⟩ :=
          ih (tells.uncovered unmarked found) Quoting.marked_outside behind later
        rw [cut]
        exact ⟨c :: first, others, rfl, (nestedFrom_cons unmarked).mpr ⟨between, found, start⟩, pieces⟩

/-- Blanks change nothing of what is awaited. -/
theorem foldlM_await?_filter (awaited text : List Char) :
    (text.filter (! isBlank ·)).foldlM await? awaited = text.foldlM await? awaited := by
  induction text generalizing awaited with
  | nil => rfl
  | cons c text ih =>
    cases blank : isBlank c with
    | false => simp [blank, ih]
    | true =>
      -- No bracket is a blank.
      have unchanged : await? awaited c = some awaited := by
        refine await?_of_ne fun d member same => ?_
        have table : ['(', '[', ')', ']'].all (! isBlank ·) = true := by decide
        simpa [← same, blank] using List.all_eq_true.mp table d member
      simp [blank, ih, unchanged]

/-- Texts that look alike but for blanks are both nested or neither. -/
theorem Nested.congr {other : List Char}
    (same : seen isBlank .outside text = seen isBlank .outside other) (nested : Nested text) :
    Nested other := by
  -- What is unquoted and no blank is seen.
  have shown (text : List Char) : (unquoted .outside text).filter (! isBlank ·) =
      ((seen isBlank .outside text).filter fun entry => ! entry.1.covers entry.2).map (·.2) := by
    rw [unquoted, seen, List.filter_map, List.filter_filter, List.filter_filter]
    congr 1
    refine List.filter_congr fun entry _ => ?_
    cases entry.1.covers entry.2 <;> simp
  rw [Nested, awaitedBehind?, ← foldlM_await?_filter, shown] at nested ⊢
  rwa [← same]

end Parts

end Retrace.Formula
