import Retrace.Proofs.Formula.Bracketing
import Retrace.Formula.Scope

/-!
The scopes of the quantifiers in any text, told from the parentheses outside quoted spans. A scope ends
with the first parenthesis that brings the depth back to that of its quantifier, in front of the one
that closes the group around it, or with the text.
-/

namespace Retrace.Formula

/-- How many parentheses are open behind one more character, if it closes none that is not open. -/
def level? (depth : Nat) (c : Char) : Option Nat :=
  if c = '(' then some (depth + 1)
  else if c = ')' then if depth = 0 then none else some (depth - 1)
  else some depth

/-- All parentheses of a text are closed, and none closes before it is opened. -/
def WellParenthesized (text : List Char) : Prop :=
  text.foldlM level? 0 = some 0

instance (text : List Char) : Decidable (WellParenthesized text) :=
  inferInstanceAs (Decidable (_ = _))

/-- How many parentheses outside spans are open behind a text, `depth` of them being open in front of
it. -/
def levelBehind? (quoting : Quoting) (depth : Nat) (text : List Char) : Option Nat :=
  (unquoted quoting text).foldlM level? depth

/-- How far the scope of a quantifier reaches into a text, `depth` parentheses being open in front of
it that were opened in the scope. The scope ends right behind the first parenthesis that brings the
depth back to that of the quantifier. If there is none, it ends right before the one that closes the
group the quantifier is in, or with the text. -/
def scopeLength (quoting : Quoting) (depth : Nat) : List Char → Nat
  | [] => 0
  | c :: rest =>
    if quoting.covers c then scopeLength (quoting.next c) depth rest + 1
    else if c = '(' then scopeLength .outside (depth + 1) rest + 1
    else if c = ')' then
      if depth = 0 then 0
      else if depth = 1 then 1
      else scopeLength .outside (depth - 1) rest + 1
    else scopeLength .outside depth rest + 1

/-- Of a scope, `depth` open parentheses have been read. The text `scope` is what is left of it, and
`rest` follows. -/
structure EndsScope (quoting : Quoting) (depth : Nat) (scope rest : List Char) : Prop where
  /-- Each parenthesis that closes a group in the scope closes one that was opened there. Only the last
  character of the scope brings the depth back to that of the quantifier. -/
  stays : ∀ front back, scope = front ++ ')' :: back → quoting.past front = .outside →
    ∃ more, levelBehind? quoting depth front = some (more + 1) ∧ (more = 0 → back = [])
  /-- The last character brings the depth back, or the next one closes the group that the quantifier
  is in, or nothing is left of the text. -/
  ends : (∃ front, scope = front ++ [')'] ∧ quoting.past front = .outside ∧
      levelBehind? quoting depth front = some 1) ∨
    (rest.head? = some ')' ∧ quoting.past scope = .outside ∧
      levelBehind? quoting depth scope = some 0) ∨
    rest = []

/-- The place of a quantifier in a text, and the place that its scope ends in front of. -/
structure Extent where
  start : Nat
  stop : Nat
  deriving DecidableEq, Repr

/-- The extents of the quantifiers outside spans, in order. The text starts at the given place. -/
def extentsFrom (quoting : Quoting) (place : Nat) : List Char → List Extent
  | [] => []
  | c :: rest =>
    if quoting.covers c then extentsFrom (quoting.next c) (place + 1) rest
    else if isQuantifier c rest then
      ⟨place, place + 1 + scopeLength .outside 0 rest⟩ :: extentsFrom .outside (place + 1) rest
    else extentsFrom .outside (place + 1) rest

/-- The extents of all quantifiers in a text. -/
def extents (text : List Char) : List Extent :=
  extentsFrom .outside 0 text

/-- In a text there is a quantifier outside spans that has the extent, with its scope behind it. -/
def Extent.Of (extent : Extent) (text : List Char) : Prop :=
  ∃ front c scope rest, text = front ++ c :: (scope ++ rest) ∧ Terminated front ∧
    isQuantifier c (scope ++ rest) = true ∧ EndsScope .outside 0 scope rest ∧
    extent = ⟨front.length, front.length + 1 + scope.length⟩

section Scopes

variable {quoting : Quoting} {depth inner : Nat} {c : Char} {scope rest text : List Char}

/-- A character that is no parenthesis opens and closes nothing. -/
theorem level?_of_ne (opens : c ≠ '(') (closes : c ≠ ')') (depth : Nat) :
    level? depth c = some depth := by
  rw [level?, if_neg opens, if_neg closes]

/-- An opening parenthesis is one more that is open. -/
theorem level?_open (depth : Nat) : level? depth '(' = some (depth + 1) :=
  rfl

/-- A closing one closes one that is open. -/
theorem level?_close (depth : Nat) : level? (depth + 1) ')' = some depth :=
  rfl

/-- In a span no parenthesis counts. -/
theorem levelBehind?_cons_of_covers (covered : quoting.covers c = true) :
    levelBehind? quoting depth (c :: text) = levelBehind? (quoting.next c) depth text := by
  rw [levelBehind?, levelBehind?, unquoted_cons_of_covers covered]

/-- Outside spans a character changes the depth behind it. -/
theorem levelBehind?_cons (unmarked : isMark c = false) (step : level? depth c = some inner) :
    levelBehind? .outside depth (c :: text) = levelBehind? .outside inner text := by
  rw [levelBehind?, levelBehind?, unquoted_cons (by simpa using unmarked),
    Quoting.next_of_unmarked unmarked, List.foldlM_cons, step]
  rfl

/-- Where no parenthesis is open, none is closed. -/
theorem levelBehind?_unopened (text : List Char) :
    levelBehind? .outside 0 (')' :: text) = none := by
  rw [levelBehind?, unquoted_cons rfl, List.foldlM_cons]
  rfl

/-- A scope goes on behind its first character if that changes the depth and does not end it. -/
theorem endsScope_cons
    (behind : ∀ text, levelBehind? quoting depth (c :: text) =
      levelBehind? (quoting.next c) inner text)
    (goes : quoting = .outside → c = ')' → 1 < depth) :
    EndsScope quoting depth (c :: scope) rest ↔ EndsScope (quoting.next c) inner scope rest := by
  constructor
  · rintro ⟨stays, ends⟩
    refine ⟨fun front back whole outside => ?_, ?_⟩
    · obtain ⟨more, level, last⟩ := stays (c :: front) back (by simp [whole]) outside
      exact ⟨more, (behind front).symm.trans level, last⟩
    · rcases ends with ⟨front, whole, outside, level⟩ | ⟨next, outside, level⟩ | none
      · cases front with
        | nil =>
          -- It is no parenthesis that ends the scope.
          obtain ⟨rfl, -⟩ := List.cons.inj whole
          obtain rfl : depth = 1 := Option.some.inj level
          exact absurd (goes outside rfl) (by decide)
        | cons d front =>
          obtain ⟨rfl, rfl⟩ := List.cons.inj whole
          exact .inl ⟨front, rfl, outside, (behind front).symm.trans level⟩
      · exact .inr (.inl ⟨next, outside, (behind scope).symm.trans level⟩)
      · exact .inr (.inr none)
  · -- Conversely, the first character is put in front of whatever the scope begins with.
    rintro ⟨stays, ends⟩
    refine ⟨fun front back whole outside => ?_, ?_⟩
    · cases front with
      | nil =>
        obtain ⟨rfl, -⟩ := List.cons.inj whole
        have deep := goes outside rfl
        exact ⟨depth - 1, congrArg some (by omega), by omega⟩
      | cons d front =>
        obtain ⟨rfl, rfl⟩ := List.cons.inj whole
        obtain ⟨more, level, last⟩ := stays front back rfl outside
        exact ⟨more, (behind front).trans level, last⟩
    · rcases ends with ⟨front, rfl, outside, level⟩ | ⟨next, outside, level⟩ | none
      · exact .inl ⟨c :: front, rfl, outside, (behind front).trans level⟩
      · exact .inr (.inl ⟨next, outside, (behind scope).trans level⟩)
      · exact .inr (.inr none)

/-- An empty scope has nothing behind it, or the parenthesis that closes the group around it. -/
theorem endsScope_nil :
    EndsScope quoting depth [] rest ↔
      (rest.head? = some ')' ∧ quoting = .outside ∧ depth = 0) ∨ rest = [] := by
  constructor
  · rintro ⟨-, ⟨front, whole, -⟩ | ⟨next, outside, level⟩ | none⟩
    · -- Nothing can stand inside an empty scope.
      simp at whole
    · exact .inl ⟨next, outside, Option.some.inj level⟩
    · exact .inr none
  · intro ends
    refine ⟨fun front back whole => by simp at whole, .inr (ends.imp_left ?_)⟩
    rintro ⟨next, outside, rfl⟩
    exact ⟨next, outside, rfl⟩

/-- Nothing of a text is in the scope if there is nothing or the scope ends in front of it. -/
theorem scopeLength_eq_zero_iff :
    scopeLength quoting depth text = 0 ↔
      (text.head? = some ')' ∧ quoting = .outside ∧ depth = 0) ∨ text = [] := by
  cases text with
  | nil => simp [scopeLength]
  | cons c text =>
    rw [scopeLength]
    split
    · rename_i covered
      -- No parenthesis opens a span.
      have inside : c = ')' → quoting ≠ .outside := by
        rintro rfl rfl
        cases covered
      simp only [List.head?_cons, Option.some.injEq, reduceCtorEq, or_false, Nat.add_eq_zero_iff,
        Nat.one_ne_zero, and_false, false_iff]
      exact fun ends => inside ends.1 ends.2.1
    rename_i uncovered
    obtain ⟨rfl, -, -⟩ := Quoting.of_not_covers (by simpa using uncovered)
    split
    · rename_i opens
      simp [opens]
    -- Only a parenthesis that closes at depth zero leaves the text out of the scope.
    split
    · rename_i closes
      subst closes
      split
      · rename_i shallow
        simp [shallow]
      split
      · rename_i deep once
        simp [deep]
      · rename_i deep more
        simp [deep]
    · rename_i closes
      simp [closes]

/-- A text is cut where the scope ends that it starts with. -/
theorem endsScope_iff :
    EndsScope quoting depth scope rest ↔ scopeLength quoting depth (scope ++ rest) = scope.length := by
  -- What is left of a scope can be read from any depth, and from the middle of a span.
  induction scope generalizing quoting depth with
  | nil => rw [endsScope_nil, List.nil_append, List.length_nil, scopeLength_eq_zero_iff]
  | cons c scope ih =>
    rw [List.cons_append, scopeLength, List.length_cons]
    split
    · rename_i covered
      -- In a span nothing ends, and a parenthesis is no mark that opens one.
      rw [endsScope_cons fun text => levelBehind?_cons_of_covers covered, ih, Nat.add_right_cancel_iff]
      rintro rfl rfl
      cases covered
    rename_i uncovered
    obtain ⟨rfl, unmarked, left⟩ := Quoting.of_not_covers (by simpa using uncovered)
    -- A character that does not end the scope leaves the rest of it to the characters behind.
    have goesOn {inner : Nat} (step : level? depth c = some inner) (deep : c = ')' → 1 < depth) :
        EndsScope .outside depth (c :: scope) rest ↔
          scopeLength .outside inner (scope ++ rest) + 1 = scope.length + 1 := by
      have behind (text : List Char) : levelBehind? .outside depth (c :: text) =
          levelBehind? (Quoting.outside.next c) inner text := by
        rw [levelBehind?_cons unmarked step, left]
      rw [endsScope_cons behind fun _ => deep, left, ih, Nat.add_right_cancel_iff]
    split
    · rename_i opens
      exact goesOn (by simp [level?, opens]) (by simp [opens])
    split
    · rename_i opens closes
      subst closes
      split
      · -- The parenthesis closes the group around, so that the scope ends in front of it.
        rename_i shallow
        subst shallow
        refine iff_of_false (fun ends => ?_) (by simp)
        obtain ⟨more, level, -⟩ := ends.stays [] scope rfl rfl
        simp [levelBehind?, unquoted, scan] at level
      split
      · -- The parenthesis goes back to the depth of the quantifier, so that the scope ends with it.
        rename_i once
        subst once
        constructor
        · intro ends
          obtain ⟨more, level, last⟩ := ends.stays [] scope rfl rfl
          obtain rfl : more = 0 := by simpa [levelBehind?, unquoted, scan] using level.symm
          rw [last rfl]
          rfl
        · intro same
          obtain rfl : scope = [] := List.eq_nil_of_length_eq_zero (by omega)
          refine ⟨fun front back whole _ => ?_, .inl ⟨[], rfl, rfl, rfl⟩⟩
          cases front with
          | nil => exact ⟨0, rfl, fun _ => (List.cons.inj whole).2.symm⟩
          | cons d front => simp at whole
      · rename_i deep more
        exact goesOn (by simp [level?, deep]) fun _ => by omega
    · rename_i opens closes
      exact goesOn (level?_of_ne opens closes depth) fun same => absurd same closes

/-- No scope reaches further than the text. -/
theorem scopeLength_le (quoting : Quoting) (depth : Nat) (text : List Char) :
    scopeLength quoting depth text ≤ text.length := by
  induction text generalizing quoting depth with
  | nil => exact Nat.le_refl 0
  | cons c text ih =>
    -- In each case one character is counted at most, and then those of the rest.
    rw [scopeLength, List.length_cons]
    split
    · exact Nat.succ_le_succ (ih _ _)
    split
    · exact Nat.succ_le_succ (ih _ _)
    split
    · split
      · exact Nat.zero_le _
      split
      · exact Nat.succ_le_succ (Nat.zero_le _)
      · exact Nat.succ_le_succ (ih _ _)
    · exact Nat.succ_le_succ (ih _ _)

end Scopes

section Extents

variable {quoting : Quoting} {place : Nat} {c : Char} {text : List Char} {extent : Extent}

/-- No quantifier is a quotation mark or a parenthesis. -/
theorem of_isQuantifier (quantified : isQuantifier c text = true) :
    isMark c = false ∧ c ≠ '(' ∧ c ≠ ')' := by
  have mark : c = '!' ∨ c = '?' := by
    simp only [isQuantifier, Bool.and_eq_true, Bool.or_eq_true, beq_iff_eq] at quantified
    exact quantified.1
  rcases mark with rfl | rfl <;> decide

/-- A quantifier stands in a text with its first character or behind it. -/
theorem exists_quantifier_cons {shown : List Char → List Char → Prop} :
    (∃ front d behind, c :: text = front ++ d :: behind ∧ quoting.past front = .outside ∧
        isQuantifier d behind = true ∧ shown front behind) ↔
      (quoting = .outside ∧ isQuantifier c text = true ∧ shown [] text) ∨
        ∃ front d behind, text = front ++ d :: behind ∧ (quoting.next c).past front = .outside ∧
          isQuantifier d behind = true ∧ shown (c :: front) behind := by
  constructor
  · rintro ⟨front, d, behind, whole, outside, found⟩
    -- With nothing in front, the quantifier is the first character itself.
    cases front with
    | nil =>
      obtain ⟨rfl, rfl⟩ := List.cons.inj whole
      exact .inl ⟨outside, found⟩
    | cons e front =>
      obtain ⟨rfl, rfl⟩ := List.cons.inj whole
      exact .inr ⟨front, d, behind, rfl, outside, found⟩
  · rintro (⟨outside, found⟩ | ⟨front, d, behind, rfl, outside, found⟩)
    · exact ⟨[], c, text, rfl, outside, found⟩
    · exact ⟨c :: front, d, behind, rfl, outside, found⟩

/-- Every quantifier outside spans has an extent, as long as its scope. -/
theorem mem_extentsFrom :
    extent ∈ extentsFrom quoting place text ↔
      ∃ front c behind, text = front ++ c :: behind ∧ quoting.past front = .outside ∧
        isQuantifier c behind = true ∧
        extent = ⟨place + front.length, place + front.length + 1 + scopeLength .outside 0 behind⟩ := by
  induction text generalizing quoting place with
  | nil => simp [extentsFrom]
  | cons c text ih =>
    -- Behind the first character everything is one place further.
    have further (front behind : List Char) :
        (⟨place + 1 + front.length, place + 1 + front.length + 1 + scopeLength .outside 0 behind⟩ :
          Extent) =
        ⟨place + (c :: front).length,
          place + (c :: front).length + 1 + scopeLength .outside 0 behind⟩ := by
      simp only [List.length_cons, Extent.mk.injEq]
      omega
    rw [exists_quantifier_cons, extentsFrom]
    split
    · rename_i covered
      rw [ih]
      simp only [further]
      -- The character belongs to a span, so that it is no quantifier.
      refine (or_iff_right ?_).symm
      rintro ⟨rfl, quantified, -⟩
      rw [Quoting.covers_outside, (of_isQuantifier quantified).1] at covered
      cases covered
    rename_i uncovered
    obtain ⟨rfl, unmarked, left⟩ := Quoting.of_not_covers (by simpa using uncovered)
    split
    · rename_i quantified
      rw [List.mem_cons, ih, left]
      simp only [further]
      simp [quantified]
    · rename_i other
      rw [ih, left]
      simp only [further]
      simp [other]

/-- No quantifier stands before the text, and none has its scope end before it. -/
theorem of_mem_extentsFrom (member : extent ∈ extentsFrom quoting place text) :
    place ≤ extent.start ∧ extent.start < extent.stop := by
  obtain ⟨front, c, behind, -, -, -, rfl⟩ := mem_extentsFrom.mp member
  simp only
  omega

/-- The extents are in the order of the quantifiers, each of which has one. -/
theorem pairwise_extentsFrom (quoting : Quoting) (place : Nat) (text : List Char) :
    (extentsFrom quoting place text).Pairwise (·.start < ·.start) := by
  induction text generalizing quoting place with
  | nil => exact List.Pairwise.nil
  | cons c text ih =>
    rw [extentsFrom]
    split
    · exact ih _ _
    split
    · refine List.pairwise_cons.mpr ⟨fun extent member => ?_, ih _ _⟩
      -- Those behind the first character start behind it.
      exact (of_mem_extentsFrom member).1
    · exact ih _ _

/-- The quantifiers outside spans are those that have an extent. -/
theorem mem_extents : extent ∈ extents text ↔ extent.Of text := by
  rw [extents, mem_extentsFrom]
  simp only [Nat.zero_add]
  constructor
  · rintro ⟨front, c, behind, rfl, outside, quantified, rfl⟩
    -- The text behind the quantifier is parted where its scope ends.
    obtain ⟨scope, rest, rfl, length⟩ : ∃ scope rest, behind = scope ++ rest ∧
        scope.length = scopeLength .outside 0 behind :=
      ⟨_, _, (List.take_append_drop _ behind).symm, List.length_take_of_le (scopeLength_le _ _ _)⟩
    exact ⟨front, c, scope, rest, rfl, outside, quantified, endsScope_iff.mpr length.symm, by
      rw [length]⟩
  · rintro ⟨front, c, scope, rest, rfl, outside, quantified, ends, rfl⟩
    exact ⟨front, c, scope ++ rest, rfl, outside, quantified, by rw [endsScope_iff.mp ends]⟩

end Extents

end Retrace.Formula
