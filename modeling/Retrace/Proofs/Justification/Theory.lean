import Mathlib
import Retrace.Justification.Reader

/-!
Theory terms left out: what is inside a term without them, and when none is left. Whether an item is
a theory term is asked before those inside it are left out, so that a list can lose the items in front
and look like a theory term afterwards.
-/

namespace Retrace.Justification

namespace Term

/-- The terms inside a list, at any depth. -/
inductive Inside : Term → Term → Prop
  | item {item : Term} {items : List Term} (member : item ∈ items) : Inside item (list items)
  | deeper {inner item : Term} {items : List Term} (member : item ∈ items)
      (inside : Inside inner item) : Inside inner (list items)

/-- The terms inside a list that are no theory terms and in none either. -/
inductive Kept : Term → Term → Prop
  | item {item : Term} {items : List Term} (member : item ∈ items)
      (other : item.isApplicationOf "theory" = false) : Kept item (list items)
  | deeper {inner item : Term} {items : List Term} (member : item ∈ items)
      (other : item.isApplicationOf "theory" = false) (kept : Kept inner item) :
      Kept inner (list items)

/-- No term inside this one is a theory term. -/
def TheoryFree (term : Term) : Prop :=
  ∀ inner, Inside inner term → inner.isApplicationOf "theory" = false

/-- The first item that is no theory term is the name of one, so that it is what the list starts with
when the theory terms in front of it are left out. -/
def BaresTheory (term : Term) : Prop :=
  ∃ dropped others, term = list (dropped ++ atom "theory" :: others) ∧
    ∀ item ∈ dropped, item.isApplicationOf "theory" = true

variable {inner term : Term} {items : List Term}

/-- The terms that are kept are those that are no theory terms, each without the theory terms inside
it. -/
theorem withoutTheoryAll_eq (items : List Term) :
    withoutTheoryAll items =
      (items.filter (! ·.isApplicationOf "theory")).map withoutTheory := by
  induction items with
  | nil => rfl
  | cons item items ih =>
    rw [withoutTheoryAll, ih]
    cases theory : item.isApplicationOf "theory" <;> simp [theory]

/-- An item that is left is what is left of an item that is kept. -/
theorem mem_withoutTheoryAll_iff :
    inner ∈ withoutTheoryAll items ↔
      ∃ item ∈ items, item.isApplicationOf "theory" = false ∧ item.withoutTheory = inner := by
  simp [withoutTheoryAll_eq, and_assoc]

/-- What is left inside a term is what is left of the terms inside it that are kept. -/
theorem inside_withoutTheory_iff :
    Inside inner term.withoutTheory ↔ ∃ given, Kept given term ∧ given.withoutTheory = inner := by
  constructor
  · intro inside
    -- Whatever has something inside is a list, and so is what it is left of.
    generalize stripped : term.withoutTheory = left at inside
    induction inside generalizing term with
    | item member =>
      cases term with
      | atom text => cases stripped
      | list items =>
        obtain rfl := list.inj stripped
        obtain ⟨item, among, other, rfl⟩ := mem_withoutTheoryAll_iff.mp member
        exact ⟨item, .item among other, rfl⟩
    | deeper member _ ih =>
      cases term with
      | atom text => cases stripped
      | list items =>
        obtain rfl := list.inj stripped
        obtain ⟨item, among, other, same⟩ := mem_withoutTheoryAll_iff.mp member
        obtain ⟨given, kept, rfl⟩ := ih same
        exact ⟨given, .deeper among other kept, rfl⟩
  · rintro ⟨given, kept, rfl⟩
    -- A term that is kept leaves something at the place where it stands.
    induction kept with
    | item member other => exact .item (mem_withoutTheoryAll_iff.mpr ⟨_, member, other, rfl⟩)
    | deeper member other _ ih =>
      exact .deeper (mem_withoutTheoryAll_iff.mpr ⟨_, member, other, rfl⟩) ih

/-- An atom is left exactly as it was. -/
theorem withoutTheory_eq_atom_iff {text : String} :
    term.withoutTheory = atom text ↔ term = atom text := by
  cases term <;> simp [withoutTheory]

/-- A list is an application of a head exactly if it starts with the head. -/
theorem isApplicationOf_list_iff {head : String} :
    (list items).isApplicationOf head = true ↔ ∃ others, items = atom head :: others := by
  cases items with
  | nil => simp [isApplicationOf, head?]
  | cons item items => cases item <;> simp [isApplicationOf, head?]

/-- What is left of a term is a theory term exactly if its first item that is kept is the name of
one. -/
theorem isApplicationOf_withoutTheory_iff :
    term.withoutTheory.isApplicationOf "theory" = true ↔ term.BaresTheory := by
  cases term with
  | atom text => simp [withoutTheory, isApplicationOf, head?, BaresTheory]
  | list items =>
    -- The first item that is kept is an atom if what is left of it is one.
    simp only [withoutTheory, isApplicationOf_list_iff, withoutTheoryAll_eq, List.map_eq_cons_iff,
      withoutTheory_eq_atom_iff, List.filter_eq_cons_iff, BaresTheory, list.injEq]
    constructor
    · rintro ⟨_, _, _, ⟨dropped, others, split, all, -, -⟩, rfl, -⟩
      exact ⟨dropped, others, split, by simpa using all⟩
    · rintro ⟨dropped, others, split, all⟩
      exact ⟨_, _, _, ⟨dropped, others, split, by simpa using all, rfl, rfl⟩, rfl, rfl⟩

/-- No theory term is inside a list exactly if none of its items is one or has one inside. -/
theorem theoryFree_list_iff :
    (list items).TheoryFree ↔
      ∀ item ∈ items, item.isApplicationOf "theory" = false ∧ item.TheoryFree := by
  constructor
  · intro free item member
    exact ⟨free item (.item member), fun inner inside => free inner (.deeper member inside)⟩
  · intro free inner inside
    cases inside with
    | item member => exact (free _ member).1
    | deeper member inside => exact (free _ member).2 _ inside

/-- Terms do not become more when theory terms are left out. -/
theorem length_withoutTheoryAll_le (items : List Term) :
    (withoutTheoryAll items).length ≤ items.length := by
  rw [withoutTheoryAll_eq, List.length_map]
  exact List.length_filter_le _ _

/-- Leaving out theory terms changes nothing exactly if there are none. -/
theorem withoutTheory_eq_self_iff :
    (∀ term : Term, term.withoutTheory = term ↔ term.TheoryFree) ∧
      ∀ items : List Term, withoutTheoryAll items = items ↔
        ∀ item ∈ items, item.isApplicationOf "theory" = false ∧ item.TheoryFree := by
  apply withoutTheory.mutual_induct
  case case1 =>
    intro text
    -- Nothing is inside an atom.
    refine iff_of_true rfl fun inner inside => ?_
    cases inside
  case case2 =>
    intro items ih
    rw [withoutTheory, list.injEq, ih, theoryFree_list_iff]
  case case3 => simp [withoutTheoryAll]
  case case4 =>
    intro item items theory ih
    -- With a theory term left out, the list is shorter.
    have shorter : withoutTheoryAll (item :: items) ≠ item :: items := by
      rw [withoutTheoryAll, if_pos theory]
      intro same
      have bounded := length_withoutTheoryAll_le items
      rw [same, List.length_cons] at bounded
      omega
    simp [shorter, theory]
  case case5 =>
    intro item items other first others
    rw [withoutTheoryAll, if_neg other, List.cons.injEq, first, others, List.forall_mem_cons]
    simp [other]

/-- What is left of a term has no theory term inside exactly if no list that is kept bares the name of
one. -/
theorem theoryFree_withoutTheory_iff :
    term.withoutTheory.TheoryFree ↔ ∀ given, Kept given term → ¬ given.BaresTheory := by
  constructor
  · intro free given kept bares
    -- A list that bares the name would be left as a theory term.
    have left := free _ (inside_withoutTheory_iff.mpr ⟨given, kept, rfl⟩)
    rw [isApplicationOf_withoutTheory_iff.mpr bares] at left
    cases left
  · intro covered inner inside
    obtain ⟨given, kept, rfl⟩ := inside_withoutTheory_iff.mp inside
    rw [← Bool.not_eq_true, isApplicationOf_withoutTheory_iff]
    exact covered given kept

/-- Leaving out theory terms leaves none of them inside, and has nothing to do a second time, exactly
if no list that is kept has theory terms in front of an item that is the name of one. What is inside
the term then is what is left of the terms that are kept, in any case. -/
theorem withoutTheory_complete_iff (term : Term) :
    (∀ inner, Inside inner term.withoutTheory ↔
        ∃ given, Kept given term ∧ given.withoutTheory = inner) ∧
      (term.withoutTheory.TheoryFree ↔ ∀ given, Kept given term → ¬ given.BaresTheory) ∧
      (term.withoutTheory.withoutTheory = term.withoutTheory ↔
        ∀ given, Kept given term → ¬ given.BaresTheory) :=
  ⟨fun _ => inside_withoutTheory_iff, theoryFree_withoutTheory_iff,
    (withoutTheory_eq_self_iff.1 _).trans theoryFree_withoutTheory_iff⟩

/-- The list of a theory term and the names `theory` and `a`. -/
def bared : Term :=
  list [list [atom "theory", atom "x"], atom "theory", atom "a"]

/-- What is left of the list looks like a theory term, and is left out when the same is done again. -/
theorem withoutTheory_bared :
    terms "[theory(x),theory,a]" = .ok [bared] ∧
      (list [bared]).withoutTheory = list [list [atom "theory", atom "a"]] ∧
      ¬ (list [bared]).withoutTheory.TheoryFree ∧
      (list [bared]).withoutTheory.withoutTheory ≠ (list [bared]).withoutTheory := by
  have left : (list [bared]).withoutTheory = list [list [atom "theory", atom "a"]] := rfl
  have again : (list [bared]).withoutTheory.withoutTheory = list [] := rfl
  refine ⟨by cbv, left, fun free => ?_, by rw [again, left]; simp⟩
  -- The list that is left is inside, and its first item is the atom.
  rw [left] at free
  exact absurd (free _ (.item List.mem_cons_self)) (by decide)

end Term

end Retrace.Justification
