import Retrace.Proofs.Formula.Groups

/-!
The parentheses of a grouped text in pairs. Those that are put in for a quantifier are a pair, and the
parentheses of the text pair up as they did before; nothing else is put in, and nothing is lost.
-/

namespace Retrace.Formula

/-- A character that is given stands in the text already. -/
def Origin.isGiven : Origin → Bool
  | given _ _ => true
  | opening _ => false
  | closing _ => false

/-- The two parentheses of the group of a quantifier. -/
def Origin.group (quantifier : Nat) : Origin × Origin :=
  (.opening quantifier, .closing quantifier)

/-- A text as it is given. -/
def givenFrom (place : Nat) : List Char → List Origin
  | [] => []
  | c :: rest => .given place c :: givenFrom (place + 1) rest

/-- The pairs of parentheses outside spans, in the order in which they are closed. `opened` holds the
parentheses that are open in front of the text, innermost first. -/
def pairsFrom (quoting : Quoting) (opened : List Origin) : List Origin → List (Origin × Origin)
  | [] => []
  | origin :: rest =>
    if quoting.covers origin.char then pairsFrom (quoting.next origin.char) opened rest
    else if origin.char = '(' then pairsFrom .outside (origin :: opened) rest
    else if origin.char = ')' then
      match opened with
      | partner :: others => (partner, origin) :: pairsFrom .outside others rest
      | [] => pairsFrom .outside [] rest
    else pairsFrom .outside opened rest

/-- The pairs of parentheses of a whole text. -/
def pairs (text : List Origin) : List (Origin × Origin) :=
  pairsFrom .outside [] text

section Partners

/-- The parentheses that are open in a grouped text: those of the scopes in the innermost group, and
around it each group that is open with the scopes around that. -/
def openedBy (own : List Nat) (outer : List (Origin × List Nat)) : List Origin :=
  own.map .opening ++ outer.flatMap fun (group, around) => group :: around.map .opening

/-- The groups of scopes that are closed in a row are pairs. -/
theorem pairsFrom_closing (quantifiers : List Nat) (opened rest : List Origin) :
    pairsFrom .outside (quantifiers.map .opening ++ opened) (quantifiers.map .closing ++ rest) =
      quantifiers.map Origin.group ++ pairsFrom .outside opened rest := by
  induction quantifiers with
  | nil => rfl
  | cons quantifier quantifiers ih => simp [pairsFrom, Origin.char, isMark, Origin.group, ih]

/-- Characters of spans pair with nothing. -/
theorem pairsFrom_of_covers {quoting : Quoting} {c : Char} (covered : quoting.covers c = true)
    (place : Nat) (opened rest : List Origin) :
    pairsFrom quoting opened (.given place c :: rest) = pairsFrom (quoting.next c) opened rest := by
  simp [pairsFrom, Origin.char, covered]

/-- Neither do characters that are no parentheses. -/
theorem pairsFrom_of_ne {c : Char} (unmarked : isMark c = false) (opens : c ≠ '(') (closes : c ≠ ')')
    (place : Nat) (opened rest : List Origin) :
    pairsFrom .outside opened (.given place c :: rest) = pairsFrom .outside opened rest := by
  simp [pairsFrom, Origin.char, unmarked, opens, closes]

/-- A parenthesis that closes a group is the partner of the innermost one that is open. -/
theorem pairsFrom_close (partner : Origin) (place : Nat) (opened rest : List Origin) :
    pairsFrom .outside (partner :: opened) (.given place ')' :: rest) =
      (partner, .given place ')') :: pairsFrom .outside opened rest := by
  simp [pairsFrom, Origin.char, isMark]

/-- The parentheses of a group are open between those of the scopes in it and those around it. -/
theorem openedBy_cons (own : List Nat) (group : Origin × List Nat)
    (others : List (Origin × List Nat)) :
    openedBy own (group :: others) =
      own.map .opening ++ (group.1 :: (group.2.map .opening ++ openedBy [] others)) := by
  simp [openedBy]

/-- The pairs of a grouped text are those of the text and the groups of its quantifiers. -/
theorem pairsFrom_groupOrigins {quoting : Quoting} {own : List Nat}
    {outer : List (Origin × List Nat)} {place : Nat} {text : List Char}
    (closed : quoting.past text = .outside)
    (balanced : levelBehind? quoting outer.length text = some 0) :
    (pairsFrom quoting (openedBy own outer) (groupOrigins quoting own outer place text)).Perm
      (pairsFrom quoting (outer.map (·.1)) (givenFrom place text) ++
        ((own ++ outer.flatMap (·.2)).map Origin.group ++
          (extentsFrom quoting place text).map fun extent => Origin.group extent.start)) := by
  induction text generalizing quoting own outer place with
  | nil =>
    obtain rfl : quoting = .outside := closed
    obtain rfl : outer = [] := List.eq_nil_of_length_eq_zero (Option.some.inj balanced)
    have whole := pairsFrom_closing own [] []
    simp only [List.append_nil] at whole
    simp [openedBy, groupOrigins, givenFrom, extentsFrom, whole, pairsFrom]
  | cons c text ih =>
    rw [givenFrom, extentsFrom]
    split
    · rename_i covered
      -- In a span nothing pairs, neither in the text nor in the grouped one.
      rw [levelBehind?_cons_of_covers covered] at balanced
      rw [groupOrigins, if_pos covered, pairsFrom_of_covers covered, pairsFrom_of_covers covered]
      exact ih closed balanced
    rename_i uncovered
    obtain ⟨rfl, unmarked, left⟩ := Quoting.of_not_covers (by simpa using uncovered)
    rw [Quoting.past_cons, left] at closed
    split
    · rename_i quantified
      obtain ⟨-, opens, closes⟩ := of_isQuantifier quantified
      rw [levelBehind?_cons unmarked (level?_of_ne opens closes _)] at balanced
      -- The parenthesis before the quantifier is open on top of all others.
      have opening : pairsFrom .outside (openedBy own outer)
          (.opening place :: .given place c ::
            groupOrigins .outside (place :: own) outer (place + 1) text) =
          pairsFrom .outside (openedBy (place :: own) outer)
            (groupOrigins .outside (place :: own) outer (place + 1) text) := by
        rw [← pairsFrom_of_ne unmarked opens closes place (openedBy (place :: own) outer)]
        rfl
      rw [groupOrigins, if_neg uncovered, if_pos quantified, opening,
        pairsFrom_of_ne unmarked opens closes]
      refine (ih closed balanced).trans (List.perm_iff_count.mpr fun pair => ?_)
      simp only [List.cons_append, List.map_cons, List.count_append, List.count_cons]
      omega
    rename_i other
    by_cases opens : c = '('
    · subst opens
      rw [levelBehind?_cons rfl (level?_open _)] at balanced
      -- It is open in both, under the scopes that are opened in its group.
      rw [groupOrigins, if_neg uncovered, if_neg other, if_pos rfl]
      exact @ih .outside [] ((.given place '(', own) :: outer) (place + 1) closed balanced
    by_cases closes : c = ')'
    · subst closes
      cases outer with
      | nil =>
        -- A parenthesis that closes nothing is none of a balanced text.
        rw [List.length_nil, levelBehind?_unopened] at balanced
        cases balanced
      | cons group others =>
        rw [List.length_cons, levelBehind?_cons rfl (level?_close _)] at balanced
        -- First the scopes of the group are closed, then the group, then the scopes around it.
        rw [groupOrigins_close, openedBy_cons, pairsFrom_closing, pairsFrom_close,
          pairsFrom_closing, List.map_cons, pairsFrom_close]
        refine List.perm_iff_count.mpr fun pair => ?_
        have counted := (@ih .outside [] others (place + 1) closed balanced).count_eq pair
        simp only [List.map_append, List.flatMap_cons, List.nil_append, List.cons_append,
          List.count_append, List.count_cons] at counted ⊢
        omega
    · rw [levelBehind?_cons unmarked (level?_of_ne opens closes _)] at balanced
      rw [groupOrigins, if_neg uncovered, if_neg other, if_neg opens, if_neg closes,
        pairsFrom_of_ne unmarked opens closes, pairsFrom_of_ne unmarked opens closes]
      exact ih closed balanced

end Partners

section Insertions

variable {quoting : Quoting} {own : List Nat} {outer : List (Origin × List Nat)} {place : Nat}
variable {text : List Char}

/-- The characters that are given are those of the text. -/
theorem map_char_givenFrom (place : Nat) (text : List Char) :
    (givenFrom place text).map Origin.char = text := by
  induction text generalizing place with
  | nil => rfl
  | cons c text ih => rw [givenFrom, List.map_cons, ih, Origin.char]

/-- Nothing of a text is dropped or moved. -/
theorem filter_originsFrom (found : List Extent) (place : Nat) (text : List Char) :
    (originsFrom found place text).filter Origin.isGiven = givenFrom place text := by
  -- What is put in at a place is not given by the text.
  have closing (place : Nat) : (closingAt found place).filter Origin.isGiven = [] := by
    simp [closingAt, List.filter_map, Function.comp_def, Origin.isGiven]
  have opening (place : Nat) : (openingAt found place).filter Origin.isGiven = [] := by
    simp [openingAt, List.filter_map, Function.comp_def, Origin.isGiven]
  induction text generalizing place with
  | nil => exact closing place
  | cons c text ih =>
    rw [originsFrom, List.filter_append, List.filter_append, closing, opening, List.nil_append,
      List.nil_append, List.filter_cons_of_pos rfl, ih, givenFrom]

/-- What the first pass writes are the characters of the text, the ends of the scopes that are open in
front of it, and the two parentheses of every quantifier in it. -/
theorem groupOrigins_perm (quoting : Quoting) (own : List Nat) (outer : List (Origin × List Nat))
    (place : Nat) (text : List Char) :
    (groupOrigins quoting own outer place text).Perm
      (givenFrom place text ++ ((own ++ outer.flatMap (·.2)).map .closing ++
        (extentsFrom quoting place text).flatMap fun extent =>
          [.opening extent.start, .closing extent.start])) := by
  induction text generalizing quoting own outer place with
  | nil => simp [groupOrigins, givenFrom, extentsFrom]
  | cons c text ih =>
    rw [groupOrigins, givenFrom, extentsFrom]
    -- Each origin is counted on both sides, character by character.
    refine List.perm_iff_count.mpr fun origin => ?_
    split
    · have behind := (ih (quoting.next c) own outer (place + 1)).count_eq origin
      simp only [List.cons_append, List.count_cons, behind]
    split
    · have behind := (ih .outside (place :: own) outer (place + 1)).count_eq origin
      simp only [List.cons_append, List.map_cons, List.flatMap_cons, List.nil_append,
        List.count_append, List.count_cons] at behind ⊢
      omega
    split
    · have behind := (ih .outside [] ((.given place c, own) :: outer) (place + 1)).count_eq origin
      simp only [List.cons_append, List.map_append, List.flatMap_cons, List.nil_append,
        List.count_append, List.count_cons] at behind ⊢
      omega
    split
    · -- The scopes that are closed here are those of the group and those right around it.
      cases outer with
      | nil =>
        have behind := (ih .outside [] [] (place + 1)).count_eq origin
        simp only [List.head?_nil, Option.elim_none, List.tail_nil, List.map_nil, List.nil_append,
          List.flatMap_nil, List.append_nil, List.cons_append, List.count_append,
          List.count_cons] at behind ⊢
        omega
      | cons group others =>
        have behind := (ih .outside [] others (place + 1)).count_eq origin
        simp only [List.head?_cons, Option.elim_some, List.tail_cons, List.map_append,
          List.flatMap_cons, List.nil_append, List.cons_append, List.count_append,
          List.count_cons] at behind ⊢
        omega
    · have behind := (ih .outside own outer (place + 1)).count_eq origin
      simp only [List.cons_append, List.count_cons, behind]

end Insertions

/-- Grouping writes a text with matched groups put in and nothing else. There is one group for each
quantifier outside spans. It is opened before the quantifier and closed where the scope of the
quantifier ends; its parentheses are a pair, and the parentheses of the text pair up as in the text. -/
theorem groupQuantifiers_matched (text : List Char) (closed : Terminated text)
    (balanced : WellParenthesized (unquoted .outside text)) :
    groupQuantifiers text = (origins text).map Origin.char ∧
      (∀ extent, extent ∈ extents text ↔ extent.Of text) ∧
      (extents text).Pairwise (·.start < ·.start) ∧
      (origins text).filter Origin.isGiven = givenFrom 0 text ∧
      (origins text).Perm (givenFrom 0 text ++ (extents text).flatMap fun extent =>
        [.opening extent.start, .closing extent.start]) ∧
      (pairs (origins text)).Perm (pairs (givenFrom 0 text) ++
        (extents text).map fun extent => Origin.group extent.start) := by
  refine ⟨groupQuantifiers_eq text, fun extent => mem_extents,
    pairwise_extentsFrom .outside 0 text, filter_originsFrom _ 0 text, ?_, ?_⟩
  · rw [← groupOrigins_start]
    exact groupOrigins_perm .outside [] [] 0 text
  · rw [← groupOrigins_start]
    exact @pairsFrom_groupOrigins .outside [] [] 0 text closed balanced

/-- The first two scopes end behind the same parenthesis, the third one in front of the last. What
stands in the span is no quantifier, and neither is the sign of an inequality. -/
theorem groupQuantifiers_matched_nested :
    Terminated "(![X]:?[Y]:q('?',Y)&?[Z]:Z!=X)".toList ∧
      WellParenthesized (unquoted .outside "(![X]:?[Y]:q('?',Y)&?[Z]:Z!=X)".toList) ∧
      groupQuantifiers "(![X]:?[Y]:q('?',Y)&?[Z]:Z!=X)".toList =
        "((![X]:(?[Y]:q('?',Y)))&(?[Z]:Z!=X))".toList ∧
      extents "(![X]:?[Y]:q('?',Y)&?[Z]:Z!=X)".toList = [⟨1, 19⟩, ⟨6, 19⟩, ⟨20, 29⟩] ∧
      (pairs (origins "(![X]:?[Y]:q('?',Y)&?[Z]:Z!=X)".toList)).Perm
        (pairs (givenFrom 0 "(![X]:?[Y]:q('?',Y)&?[Z]:Z!=X)".toList) ++
          [Origin.group 1, Origin.group 6, Origin.group 20]) :=
  ⟨by decide, by decide, by decide +kernel, by decide +kernel,
    (groupQuantifiers_matched "(![X]:?[Y]:q('?',Y)&?[Z]:Z!=X)".toList
      (by decide) (by decide)).2.2.2.2.2⟩

end Retrace.Formula
