import Retrace.Formula
import Retrace.Proofs.Formula.Currying
import Retrace.Proofs.Formula.Pairs

/-!
The parentheses of a formula on its way to HOL form. Grouping puts matched ones in, and the two other
passes keep those that they find, in order, so that a text that is balanced stays balanced.
-/

namespace Retrace.Formula

section Levels

variable {quoting : Quoting} {own : List Nat} {outer : List (Origin × List Nat)} {place : Nat}
variable {text other : List Char}

/-- Only parentheses make a difference to how many are open behind a text. -/
theorem foldlM_level?_filter (depth : Nat) (text : List Char) :
    (text.filter isParenthesis).foldlM level? depth = text.foldlM level? depth := by
  induction text generalizing depth with
  | nil => rfl
  | cons c text ih =>
    cases round : isParenthesis c with
    | true =>
      rw [List.filter_cons_of_pos round, List.foldlM_cons, List.foldlM_cons]
      exact congrArg _ (funext ih)
    | false =>
      -- Any other character leaves the level as it is.
      obtain ⟨opens, closes⟩ : c ≠ '(' ∧ c ≠ ')' := by simpa [isParenthesis] using round
      rw [List.filter_cons_of_neg (by simp [round]), List.foldlM_cons, level?_of_ne opens closes]
      exact ih depth

/-- A text with the parentheses of a balanced one is balanced. -/
theorem WellParenthesized.congr (same : other.filter isParenthesis = text.filter isParenthesis)
    (balanced : WellParenthesized text) : WellParenthesized other := by
  rw [WellParenthesized, ← foldlM_level?_filter] at balanced ⊢
  rwa [same]

/-- Parentheses in a row close as many as there are. -/
theorem levelBehind?_replicate (count depth : Nat) (text : List Char) :
    levelBehind? .outside (count + depth) (List.replicate count ')' ++ text) =
      levelBehind? .outside depth text := by
  induction count with
  | zero => rw [Nat.zero_add, List.replicate_zero, List.nil_append]
  | succ count ih =>
    rw [List.replicate_succ, List.cons_append, Nat.add_right_comm,
      levelBehind?_cons rfl (level?_close _), ih]

/-- The first pass closes all groups and scopes that are open in front of a text, if the text closes
the groups. -/
theorem levelBehind?_groupOrigins {depth : Nat} (closed : quoting.past text = .outside)
    (balanced : levelBehind? quoting outer.length text = some 0)
    (counted : depth = own.length + (outer.length + (outer.flatMap (·.2)).length)) :
    levelBehind? quoting depth ((groupOrigins quoting own outer place text).map Origin.char) =
      some 0 := by
  induction text generalizing quoting own outer place depth with
  | nil =>
    obtain rfl : quoting = .outside := closed
    obtain rfl : outer = [] := List.eq_nil_of_length_eq_zero (Option.some.inj balanced)
    -- Only the scopes are left, for the text has closed all groups.
    have all := levelBehind?_replicate own.length 0 []
    rw [List.append_nil] at all
    rw [groupOrigins, List.flatMap_nil, List.append_nil, char_closing, counted]
    exact all
  | cons c text ih =>
    rw [groupOrigins]
    split
    · rename_i covered
      rw [levelBehind?_cons_of_covers covered] at balanced
      rw [List.map_cons, Origin.char, levelBehind?_cons_of_covers covered]
      exact ih closed balanced counted
    rename_i uncovered
    obtain ⟨rfl, unmarked, left⟩ := Quoting.of_not_covers (by simpa using uncovered)
    rw [Quoting.past_cons, left] at closed
    split
    · -- A parenthesis is put in, which is closed with the scope.
      rename_i quantified
      obtain ⟨-, opens, closes⟩ := of_isQuantifier quantified
      rw [levelBehind?_cons unmarked (level?_of_ne opens closes _)] at balanced
      rw [List.map_cons, List.map_cons, Origin.char, Origin.char,
        levelBehind?_cons rfl (level?_open _),
        levelBehind?_cons unmarked (level?_of_ne opens closes _)]
      exact ih closed balanced (by rw [List.length_cons]; omega)
    split
    · rename_i opens
      subst opens
      rw [levelBehind?_cons rfl (level?_open _)] at balanced
      rw [List.map_cons, Origin.char, levelBehind?_cons rfl (level?_open _)]
      refine ih closed balanced ?_
      simp only [List.length_nil, List.length_cons, List.flatMap_cons, List.length_append]
      omega
    split
    · rename_i closes
      subst closes
      cases outer with
      | nil =>
        rw [List.length_nil, levelBehind?_unopened] at balanced
        cases balanced
      | cons group others =>
        rw [List.length_cons, levelBehind?_cons rfl (level?_close _)] at balanced
        -- The scopes of the group are closed, then the group, then the scopes around it.
        have total : depth =
            own.length + (group.2.length + (others.length + (others.flatMap (·.2)).length) + 1) := by
          rw [counted, List.length_cons, List.flatMap_cons, List.length_append]
          omega
        rw [List.head?_cons, Option.elim_some, List.tail_cons, List.map_append, List.map_cons,
          List.map_append, char_closing, char_closing, Origin.char, total, levelBehind?_replicate,
          levelBehind?_cons rfl (level?_close _), levelBehind?_replicate]
        exact ih closed balanced (by rw [List.length_nil, Nat.zero_add])
    · rename_i opens closes
      rw [levelBehind?_cons unmarked (level?_of_ne opens closes _)] at balanced
      rw [List.map_cons, Origin.char, levelBehind?_cons unmarked (level?_of_ne opens closes _)]
      exact ih closed balanced counted

end Levels

section Counts

variable {text : List Char}

/-- How many quantifiers there are in a text without spans. -/
def quantifierCount : List Char → Nat
  | [] => 0
  | c :: rest => (if isQuantifier c rest then 1 else 0) + quantifierCount rest

/-- Without spans, every quantifier has an extent. -/
theorem length_extentsFrom (unmarked : ∀ c ∈ text, isMark c = false) (place : Nat) :
    (extentsFrom .outside place text).length = quantifierCount text := by
  induction text generalizing place with
  | nil => rfl
  | cons c text ih =>
    obtain ⟨first, later⟩ := List.forall_mem_cons.mp unmarked
    -- Outside of spans every character is asked whether it is a quantifier.
    rw [extentsFrom, if_neg (by simp [first]), quantifierCount]
    split
    · rw [List.length_cons, ih later, Nat.add_comm]
    · rw [ih later, Nat.zero_add]

/-- Each extent gives one parenthesis of either kind. -/
theorem count_inserted {c : Char} (round : isParenthesis c = true) (found : List Extent) :
    ((found.flatMap fun extent => [Origin.opening extent.start, .closing extent.start]).map
      Origin.char).count c = found.length := by
  induction found with
  | nil => rfl
  | cons extent found ih =>
    rw [List.flatMap_cons, List.map_append, List.count_append, ih, List.length_cons]
    rcases isParenthesis_iff.mp round with rfl | rfl <;> exact Nat.add_comm 1 _

/-- Grouping puts in as many parentheses of either kind as there are quantifiers outside spans. -/
theorem count_groupQuantifiers {c : Char} (round : isParenthesis c = true) (text : List Char) :
    (groupQuantifiers text).count c = text.count c + (extents text).length := by
  have written := ((groupOrigins_perm .outside [] [] 0 text).map Origin.char).count_eq c
  rw [char_groupOrigins, List.map_append, List.count_append, map_char_givenFrom] at written
  exact written.trans (congrArg _ (count_inserted round _))

end Counts

/-- Grouping keeps the parentheses outside spans balanced, if the spans of the text are closed. -/
theorem wellParenthesized_groupQuantifiers {text : List Char} (closed : Terminated text)
    (balanced : WellParenthesized (unquoted .outside text)) :
    WellParenthesized (unquoted .outside (groupQuantifiers text)) := by
  have whole := @levelBehind?_groupOrigins .outside [] [] 0 text 0 closed balanced rfl
  rwa [char_groupOrigins] at whole

/-- The two passes behind the first one keep the parentheses of a text, in order. -/
theorem filter_toHol_isParenthesis (text : List Char) :
    (toHol text).filter isParenthesis = (groupQuantifiers text).filter isParenthesis := by
  have table : symbolCharacters.all (! isParenthesis ·) = true := by decide
  have symbols (c : Char) (among : c ∈ symbolCharacters) : isParenthesis c = false := by
    simpa using List.all_eq_true.mp table c among
  rw [toHol, substituteSymbols,
    filter_substituteFrom (fun _ blank => isParenthesis_of_isBlank blank) symbols,
    filter_curryApplications_isParenthesis]

/-- A character of a text without quotes is no mark. -/
theorem isMark_of_notMem {text : List Char} (single : '\x27' ∉ text) (double : '"' ∉ text) :
    ∀ c ∈ text, isMark c = false := by
  intro c member
  refine Bool.eq_false_iff.mpr fun mark => ?_
  have either : c = '\x27' ∨ c = '"' := by simpa [isMark] using mark
  rcases either with rfl | rfl
  · exact single member
  · exact double member

/-- The HOL form of a formula without quotes is balanced if the formula is, whatever else there is in
it. Of either parenthesis it has as many as the formula and one for each quantifier. -/
theorem translate_balanced (formula : String) (single : '\x27' ∉ formula.toList)
    (double : '"' ∉ formula.toList) (balanced : WellParenthesized formula.toList) :
    WellParenthesized (translate formula).toList ∧
      ∀ c, isParenthesis c = true → (translate formula).toList.count c =
        formula.toList.count c + quantifierCount formula.toList := by
  have unmarked := isMark_of_notMem single double
  have kept : (translate formula).toList.filter isParenthesis =
      (groupQuantifiers formula.toList).filter isParenthesis := by
    rw [translate, String.toList_ofList, filter_toHol_isParenthesis]
  -- Grouping puts no mark in either, so that nothing is in a span.
  have plain : ∀ c ∈ groupQuantifiers formula.toList, isMark c = false := by
    have none : (groupQuantifiers formula.toList).filter isMark = [] := by
      rw [groupQuantifiers, filter_groupFrom rfl rfl, List.filter_eq_nil_iff]
      exact fun c member => by simp [unmarked c member]
    exact fun c member => by simpa using List.filter_eq_nil_iff.mp none c member
  constructor
  · -- Balance is a matter of the parentheses alone, and later passes keep these.
    have grouped := wellParenthesized_groupQuantifiers (past_of_unmarked unmarked)
      ((unquoted_of_unmarked unmarked).symm ▸ balanced)
    rw [unquoted_of_unmarked plain] at grouped
    exact grouped.congr kept
  · intro c round
    rw [← List.count_filter round, kept, List.count_filter round, count_groupQuantifiers round,
      extents, length_extentsFrom unmarked]

/-- A parenthesis may stand among the variables of a binder, and brackets need not be matched. -/
theorem translate_balanced_unmatched :
    '\x27' ∉ "p(]a,[b),![(X),?Y]:q(X)".toList ∧ '"' ∉ "p(]a,[b),![(X),?Y]:q(X)".toList ∧
      WellParenthesized "p(]a,[b),![(X),?Y]:q(X)".toList ∧
      translate "p(]a,[b),![(X),?Y]:q(X)" = "(p ]a [b) (! (X)) (?Y .(q X))" ∧
      WellParenthesized (translate "p(]a,[b),![(X),?Y]:q(X)").toList ∧
      ∀ c, isParenthesis c = true → (translate "p(]a,[b),![(X),?Y]:q(X)").toList.count c =
        "p(]a,[b),![(X),?Y]:q(X)".toList.count c + 2 :=
  ⟨by decide, by decide, by decide, by decide +kernel,
    translate_balanced "p(]a,[b),![(X),?Y]:q(X)" (by decide) (by decide) (by decide)⟩

end Retrace.Formula
