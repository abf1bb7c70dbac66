import Retrace.Proofs.Justification.Grammar

/-! The names that a justification cites are made of characters of the justification. -/

namespace Retrace.Justification

namespace Term

mutual

/-- The texts of the atoms in a term. -/
def names : Term → List String
  | atom text => [text]
  | list items => namesAll items

/-- The texts of the atoms in several terms. -/
def namesAll : List Term → List String
  | [] => []
  | item :: items => item.names ++ namesAll items

end

/-- What terms cite are texts of their atoms. -/
theorem cited_subset :
    (∀ (term : Term) (cited : List String), term.cited? = some cited → cited ⊆ term.names) ∧
      ∀ (items : List Term) (cited : List String), citedAll? items = some cited →
        cited ⊆ namesAll items := by
  -- An inference is looked into at its third argument only, any other list at every item.
  apply cited?.mutual_induct
  case case1 =>
    intro text cited found
    obtain rfl : (if text = "proof" then [] else [text]) = cited := by simpa [cited?] using found
    split <;> simp [names]
  case case2 =>
    intro second third parents tail ih cited found
    have among := ih cited (by simpa [cited?] using found)
    intro name member
    simp [names, namesAll, among member]
  case case3 =>
    intro arguments short cited found
    simp [cited?] at found
  case case4 =>
    intro items other ih cited found
    refine ih cited ?_
    rw [← found]
    simp [cited?]
  case case5 =>
    intro cited found
    obtain rfl : [] = cited := by simpa [citedAll?] using found
    exact List.nil_subset _
  case case6 =>
    intro item items first others cited found
    -- The items are looked into one by one, and all of them have to be readable.
    cases head : item.cited? with
    | none => simp [citedAll?, head] at found
    | some front =>
      cases rest : citedAll? items with
      | none => simp [citedAll?, head, rest] at found
      | some back =>
        obtain rfl : front ++ back = cited := by simpa [citedAll?, head, rest] using found
        exact List.append_subset.mpr
          ⟨List.subset_append_of_subset_left _ (first front head),
            List.subset_append_of_subset_right _ (others back rest)⟩

/-- Theory terms are left out, and nothing comes in for them. -/
theorem withoutTheory_subset :
    (∀ term : Term, term.withoutTheory.names ⊆ term.names) ∧
      ∀ items : List Term, namesAll (withoutTheoryAll items) ⊆ namesAll items := by
  -- Terms and lists of terms are pruned together, so both are shown at once.
  apply withoutTheory.mutual_induct
  case case1 => exact fun text => List.Subset.refl _
  case case2 => exact fun items ih => by simpa [withoutTheory, names] using ih
  case case3 => exact List.Subset.refl _
  -- A theory term takes its names along, and every other term keeps its own.
  case case4 =>
    intro item items theorized ih
    rw [withoutTheoryAll, if_pos theorized]
    exact List.subset_append_of_subset_right _ ih
  case case5 =>
    intro item items other first others
    rw [withoutTheoryAll, if_neg other]
    exact List.append_subset.mpr
      ⟨List.subset_append_of_subset_left _ first, List.subset_append_of_subset_right _ others⟩

end Term

/-- The names cited by terms are texts of their atoms. -/
theorem citations_subset {terms : List Term} {cited : List String}
    (found : citations terms = .ok cited) : cited ⊆ Term.namesAll terms := by
  unfold citations at found
  -- A justification of theory terms alone cites nothing.
  cases kept : Term.withoutTheoryAll terms with
  | nil =>
    obtain rfl : [] = cited := by simpa [kept] using found
    exact List.nil_subset _
  | cons source others =>
    rw [kept] at found
    simp only at found
    split at found
    · obtain rfl : [] = cited := by simpa using found
      exact List.nil_subset _
    · split at found
      · rename_i names located
        obtain rfl : names.eraseDups = cited := by simpa using found
        -- Only the first of the terms that are kept is looked into.
        have inside := Term.withoutTheory_subset.2 terms
        rw [kept, Term.namesAll] at inside
        intro name member
        have cited := Term.cited_subset.1 source names located (List.mem_eraseDups.mp member)
        exact inside (List.mem_append_left _ cited)
      · cases found

mutual

/-- The names in an item are made of characters of its text. -/
theorem ItemText.within {body : List Char} {item : Term} (derived : ItemText body item) :
    ∀ name ∈ item.names, ∀ c ∈ name.toList, c ∈ body := by
  -- A quoted text and a symbol are names themselves, and the other names are those of the items.
  cases derived with
  | bracketed derived _ =>
    intro name member c held
    have inside := ItemsText.within derived name member c held
    simp [inside]
  | quoted _ _ => simp +contextual [Term.names]
  | symbol _ => simp [Term.names]
  | application _ derived _ =>
    intro name member c held
    -- A name of an application is its head or a name of its arguments.
    rcases List.mem_append.mp member with head | argument
    · rw [Term.names, List.mem_singleton] at head
      simp_all
    · have inside := ItemsText.within derived name argument c held
      simp [inside]

/-- The names in several items are made of characters of their text. -/
theorem ItemsText.within {body : List Char} {items : List Term} (derived : ItemsText body items) :
    ∀ name ∈ Term.namesAll items, ∀ c ∈ name.toList, c ∈ body := by
  -- A name is in the first item or in those behind it.
  cases derived with
  | nothing => simp [Term.namesAll]
  | first _ derived behind =>
    intro name member c held
    rcases List.mem_append.mp member with first | later
    · have inside := ItemText.within derived name first c held
      simp [inside]
    · have inside := MoreText.within behind name later c held
      simp [inside]

/-- The names in further items are made of characters of their text. -/
theorem MoreText.within {body : List Char} {items : List Term} (derived : MoreText body items) :
    ∀ name ∈ Term.namesAll items, ∀ c ∈ name.toList, c ∈ body := by
  cases derived with
  | nothing => simp [Term.namesAll]
  | next _ _ derived behind =>
    intro name member c held
    -- A name belongs to the next item or to those behind it.
    rcases List.mem_append.mp member with first | later
    · have inside := ItemText.within derived name first c held
      simp [inside]
    · have inside := MoreText.within behind name later c held
      simp [inside]

end

/-- The names that a justification cites are made of its characters. -/
theorem mem_of_mem_parents {justification : String} {cited : List String}
    (read : parents justification = .ok cited) {name : String} (member : name ∈ cited) {c : Char}
    (held : c ∈ name.toList) : c ∈ justification.toList := by
  unfold parents at read
  cases parsed : readAll justification.toList with
  | error problem => simp [parsed, Bind.bind, Except.bind, Except.mapError] at read
  | ok terms =>
    cases found : citations terms with
    | error problem => simp [parsed, Bind.bind, Except.bind, found, Except.mapError] at read
    | ok names =>
      obtain rfl : names = cited := by
        simpa [parsed, Bind.bind, Except.bind, found, Except.mapError] using read
      -- The names cited are among those of the terms, which are derived from the justification.
      obtain ⟨front, layout, derived, -, whole⟩ := readAll_eq_ok_iff.mp parsed
      rw [whole]
      exact List.mem_append_left _ (derived.within name (citations_subset found member) c held)

end Retrace.Justification
