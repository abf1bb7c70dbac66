import Retrace.Proofs.Formula.Extents
import Retrace.Proofs.Formula.Scope

/-!
The groups of quantifiers in any text. The first pass puts a parenthesis in before each quantifier and
one where its scope ends, as the extents of the quantifiers tell, although it reads the text only once
and keeps no more than the depths of the scopes that are open.
-/

namespace Retrace.Formula

/-- Where a character of a grouped text comes from: it is given at a place, or it is a parenthesis of
the group of the quantifier at a place. -/
inductive Origin where
  | given (place : Nat) (c : Char)
  | opening (quantifier : Nat)
  | closing (quantifier : Nat)
  deriving DecidableEq, Repr

/-- The character itself. -/
def Origin.char : Origin → Char
  | given _ c => c
  | opening _ => '('
  | closing _ => ')'

/-- The parentheses that close the scopes that end at a place, in the order of the extents. -/
def closingAt (extents : List Extent) (place : Nat) : List Origin :=
  (extents.filter (·.stop == place)).map (.closing ·.start)

/-- The parenthesis before the quantifier at a place, if there is one. -/
def openingAt (extents : List Extent) (place : Nat) : List Origin :=
  (extents.filter (·.start == place)).map (.opening ·.start)

/-- A text with parentheses put in: before each character stand those that close the scopes that end
there, and then the one that opens the group of the quantifier that the character is. -/
def originsFrom (extents : List Extent) (place : Nat) : List Char → List Origin
  | [] => closingAt extents place
  | c :: rest =>
    closingAt extents place ++ (openingAt extents place ++
      .given place c :: originsFrom extents (place + 1) rest)

/-- A text with its quantifiers grouped. Of the scopes that end at one place, the innermost one is
closed first, which is that of the last quantifier. -/
def origins (text : List Char) : List Origin :=
  originsFrom (extents text).reverse 0 text

section Pass

/-- The first pass with the origins of what it writes. `own` holds the quantifiers whose scopes are
open in the innermost group, and `outer` the parentheses of all open groups with the quantifiers whose
scopes are open around each, both innermost first. -/
def groupOrigins (quoting : Quoting) (own : List Nat) (outer : List (Origin × List Nat))
    (place : Nat) : List Char → List Origin
  | [] => (own ++ outer.flatMap (·.2)).map .closing
  | c :: rest =>
    if quoting.covers c then
      .given place c :: groupOrigins (quoting.next c) own outer (place + 1) rest
    else if isQuantifier c rest then
      .opening place :: .given place c ::
        groupOrigins .outside (place :: own) outer (place + 1) rest
    else if c = '(' then
      .given place c :: groupOrigins .outside [] ((.given place c, own) :: outer) (place + 1) rest
    else if c = ')' then
      own.map .closing ++ .given place c :: ((outer.head?.elim [] (·.2)).map .closing ++
        groupOrigins .outside [] outer.tail (place + 1) rest)
    else .given place c :: groupOrigins .outside own outer (place + 1) rest

/-- A parenthesis that closes a group ends the scopes in it, and behind it those around it. -/
theorem groupOrigins_close (own : List Nat) (group : Origin × List Nat)
    (others : List (Origin × List Nat)) (place : Nat) (text : List Char) :
    groupOrigins .outside own (group :: others) place (')' :: text) =
      own.map .closing ++ .given place ')' ::
        (group.2.map .closing ++ groupOrigins .outside [] others (place + 1) text) := by
  rw [groupOrigins, if_neg (by decide), if_neg (by simp [isQuantifier]), if_neg (by decide),
    if_pos rfl]
  rfl

/-- The depths at which the scopes around the innermost group began. -/
def depthsAround : List (Origin × List Nat) → List Nat
  | [] => []
  | (_, around) :: others => List.replicate around.length others.length ++ depthsAround others

/-- They began further up than the group. -/
theorem lt_of_mem_depthsAround {outer : List (Origin × List Nat)} :
    ∀ depth ∈ depthsAround outer, depth < outer.length := by
  induction outer with
  | nil => simp [depthsAround]
  | cons group others ih => exact below_succ group.2.length ih

/-- The closing parentheses of scopes, whatever their depths. -/
theorem char_closing (quantifiers : List Nat) :
    (quantifiers.map Origin.closing).map Origin.char = List.replicate quantifiers.length ')' := by
  rw [List.map_map, List.eq_replicate_iff]
  simp [Origin.char]

/-- Scopes of one depth are closed by one parenthesis each. -/
theorem closing_replicate (count depth : Nat) :
    closing (List.replicate count depth) = List.replicate count ')' :=
  List.map_replicate

/-- The characters are those that the first pass writes. -/
theorem char_groupOrigins (quoting : Quoting) (own : List Nat) (outer : List (Origin × List Nat))
    (place : Nat) (text : List Char) :
    (groupOrigins quoting own outer place text).map Origin.char =
      groupFrom quoting outer.length (List.replicate own.length outer.length ++ depthsAround outer)
        text := by
  induction text generalizing quoting own outer place with
  | nil =>
    -- Every scope that is left is closed.
    have around : (depthsAround outer).length = (outer.flatMap (·.2)).length := by
      induction outer with
      | nil => rfl
      | cons group others ih => simp [depthsAround, ih]
    rw [groupOrigins, groupFrom, char_closing, closing, List.map_const', List.length_append,
      List.length_append, List.length_replicate, around]
  | cons c text ih =>
    rw [groupOrigins, groupFrom]
    split
    · rw [List.map_cons, ih]
      rfl
    split
    · rw [List.map_cons, List.map_cons, ih]
      rfl
    split
    · rw [List.map_cons, ih]
      rfl
    split
    · -- The scopes of the group end before its parenthesis, and those around it behind.
      obtain ⟨inner, further⟩ := while_level_replicate own.length (@lt_of_mem_depthsAround outer)
      rw [inner, further, List.map_append, List.map_cons, List.map_append, char_closing,
        char_closing, ih, closing_replicate]
      cases outer with
      | nil => rfl
      | cons group others =>
        obtain ⟨behind, left⟩ :=
          while_level_replicate group.2.length (@lt_of_mem_depthsAround others)
        simp only [depthsAround, List.length_cons, Nat.add_sub_cancel, behind, left,
          closing_replicate]
        rfl
    · rw [List.map_cons, ih]
      rfl

end Pass

section Extents

variable {quoting : Quoting} {front back found : List Extent} {quantifiers : List Nat}
variable {place : Nat} {c : Char} {text : List Char}

/-- Nothing is closed at a place where no scope ends. -/
theorem closingAt_eq_nil (later : ∀ extent ∈ found, extent.stop ≠ place) :
    closingAt found place = [] := by
  rw [closingAt, List.map_eq_nil_iff, List.filter_eq_nil_iff]
  exact fun extent member => by simpa using later extent member

/-- Nothing is opened at a place where no quantifier stands. -/
theorem openingAt_eq_nil (later : ∀ extent ∈ found, extent.start ≠ place) :
    openingAt found place = [] := by
  rw [openingAt, List.map_eq_nil_iff, List.filter_eq_nil_iff]
  exact fun extent member => by simpa using later extent member

theorem closingAt_append (front back : List Extent) (place : Nat) :
    closingAt (front ++ back) place = closingAt front place ++ closingAt back place := by
  simp [closingAt]

theorem openingAt_append (front back : List Extent) (place : Nat) :
    openingAt (front ++ back) place = openingAt front place ++ openingAt back place := by
  simp [openingAt]

/-- The extents of several quantifiers whose scopes end at one place. -/
def upTo (stop : Nat) (quantifiers : List Nat) : List Extent :=
  quantifiers.map (⟨·, stop⟩)

/-- Scopes that end before a text make no difference to it. -/
theorem originsFrom_past {stop : Nat} (past : stop < place)
    (earlier : ∀ quantifier ∈ quantifiers, quantifier < place) :
    originsFrom (front ++ (upTo stop quantifiers ++ back)) place text =
      originsFrom (front ++ back) place text := by
  -- Neither their ends nor their quantifiers are met behind this place.
  have closed : closingAt (upTo stop quantifiers) place = [] :=
    closingAt_eq_nil (List.forall_mem_map.mpr fun quantifier _ => Nat.ne_of_lt past)
  induction text generalizing place with
  | nil => simp [originsFrom, closingAt_append, closed]
  | cons c text ih =>
    have opened : openingAt (upTo stop quantifiers) place = [] :=
      openingAt_eq_nil (List.forall_mem_map.mpr fun quantifier member =>
        Nat.ne_of_lt (earlier quantifier member))
    -- The next character stands further behind, so the induction goes on from there.
    have behind := ih (Nat.lt_succ_of_lt past)
      (fun quantifier member => Nat.lt_succ_of_lt (earlier quantifier member))
      (closingAt_eq_nil (List.forall_mem_map.mpr fun quantifier _ =>
        Nat.ne_of_lt (Nat.lt_succ_of_lt past)))
    simp [originsFrom, closingAt_append, openingAt_append, closed, opened, behind]

/-- Scopes that end where a text starts are closed in front of it. -/
theorem originsFrom_upTo (waiting : ∀ extent ∈ front, extent.stop ≠ place)
    (earlier : ∀ quantifier ∈ quantifiers, quantifier < place) :
    originsFrom (front ++ (upTo place quantifiers ++ back)) place text =
      quantifiers.map .closing ++ originsFrom (front ++ back) place text := by
  -- All of these scopes end here and began before, so they close here and open nothing.
  have closed : closingAt (upTo place quantifiers) place = quantifiers.map .closing := by
    rw [closingAt, upTo, List.filter_map, List.filter_eq_self.mpr (by simp), List.map_map]
    rfl
  have opened : openingAt (upTo place quantifiers) place = [] :=
    openingAt_eq_nil (List.forall_mem_map.mpr fun quantifier member =>
      Nat.ne_of_lt (earlier quantifier member))
  -- What follows no longer sees them, be it a character or nothing.
  cases text with
  | nil => simp [originsFrom, closingAt_append, closingAt_eq_nil waiting, closed]
  | cons c text =>
    have behind := @originsFrom_past front back quantifiers (place + 1) text place
      (Nat.lt_succ_self place) fun quantifier member =>
        Nat.lt_succ_of_lt (earlier quantifier member)
    simp [originsFrom, closingAt_append, openingAt_append, closingAt_eq_nil waiting, closed, opened,
      behind]

/-- A character is copied where no scope ends and no quantifier stands. -/
theorem originsFrom_given
    (elsewhere : ∀ extent ∈ found, extent.start ≠ place ∧ extent.stop ≠ place) :
    originsFrom found place (c :: text) = .given place c :: originsFrom found (place + 1) text := by
  rw [originsFrom, closingAt_eq_nil fun extent member => (elsewhere extent member).2,
    openingAt_eq_nil fun extent member => (elsewhere extent member).1]
  rfl

/-- A quantifier has a parenthesis put in before it, where no scope ends. -/
theorem originsFrom_opened {stop : Nat} (later : place < stop)
    (ahead : ∀ extent ∈ front, extent.start ≠ place ∧ extent.stop ≠ place)
    (around : ∀ extent ∈ back, extent.start ≠ place ∧ extent.stop ≠ place) :
    originsFrom (front ++ ⟨place, stop⟩ :: back) place (c :: text) =
      .opening place :: .given place c ::
        originsFrom (front ++ ⟨place, stop⟩ :: back) (place + 1) text := by
  -- The scope of the quantifier ends later, and no other one ends here.
  have closed : closingAt (front ++ ⟨place, stop⟩ :: back) place = [] := by
    refine closingAt_eq_nil fun extent member => ?_
    rcases List.mem_append.mp member with inside | behind
    · exact (ahead extent inside).2
    rcases List.mem_cons.mp behind with rfl | outer
    · exact Nat.ne_of_gt later
    · exact (around extent outer).2
  -- Only the quantifier itself begins a scope here.
  have opened : openingAt (⟨place, stop⟩ :: back) place = [.opening place] := by
    have others : openingAt back place = [] :=
      openingAt_eq_nil fun extent member => (around extent member).1
    simpa [openingAt] using others
  rw [originsFrom, closed, openingAt_append, opened,
    openingAt_eq_nil fun extent member => (ahead extent member).1]
  rfl

/-- The extents of the quantifiers whose scopes are open, innermost group first. `depth` tells how many
groups are open around those of the first one. -/
def pending (quoting : Quoting) (place : Nat) (text : List Char) (depth : Nat) :
    List (List Nat) → List Extent
  | [] => []
  | own :: outer =>
    upTo (place + scopeLength quoting depth text) own ++
      pending quoting place text (depth + 1) outer

/-- At the end of a text all open scopes end. -/
theorem pending_nil (depth : Nat) (levels : List (List Nat)) :
    pending quoting place [] depth levels = upTo place levels.flatten := by
  induction levels generalizing depth with
  | nil => rfl
  | cons own outer ih => simp [pending, scopeLength, upTo, ih]

/-- Their scopes reach as far as the text is read from the depths that they began at. -/
theorem of_mem_pending {depth : Nat} {levels : List (List Nat)} {extent : Extent}
    (member : extent ∈ pending quoting place text depth levels) :
    extent.start ∈ levels.flatten ∧
      ∃ more, extent.stop = place + scopeLength quoting (depth + more) text := by
  induction levels generalizing depth with
  | nil => cases member
  | cons own outer ih =>
    -- The scopes around the group are looked at from one level further up.
    rw [List.flatten_cons, List.mem_append]
    rcases List.mem_append.mp member with inside | around
    · obtain ⟨quantifier, among, rfl⟩ := List.mem_map.mp inside
      exact ⟨.inl among, 0, rfl⟩
    · obtain ⟨among, more, stop⟩ := ih around
      exact ⟨.inr among, more + 1, by rw [stop]; congr 2; omega⟩

/-- If all open scopes reach one character further, they reach as far behind that character. -/
theorem pending_cons {after : Quoting} {depth inner : Nat}
    (reaches : ∀ more, scopeLength quoting (depth + more) (c :: text) =
      scopeLength after (inner + more) text + 1) (levels : List (List Nat)) :
    pending quoting place (c :: text) depth levels = pending after (place + 1) text inner levels := by
  induction levels generalizing depth inner with
  | nil => rfl
  | cons own outer ih =>
    -- The innermost scopes reach one character further, from the depth that they began at.
    have first : place + scopeLength quoting depth (c :: text) =
        place + 1 + scopeLength after inner text := by
      have same := reaches 0
      simp only [Nat.add_zero] at same
      omega
    -- For all others the depths are one greater on both sides.
    have later := @ih (depth + 1) (inner + 1) fun more => by
      rw [Nat.add_right_comm, Nat.add_assoc, reaches, Nat.add_right_comm inner, Nat.add_assoc]
    rw [pending, pending, first, later]

/-- The extents that make a difference to a text are those of its quantifiers, and those of the scopes
that are open in front of it. The inner ones are closed first. -/
def counting (quoting : Quoting) (place : Nat) (text : List Char) (depth : Nat)
    (levels : List (List Nat)) : List Extent :=
  (extentsFrom quoting place text).reverse ++ pending quoting place text depth levels

/-- The quantifiers of a text stand in it, and their scopes end behind them. -/
theorem of_mem_reverse {extent : Extent} (member : extent ∈ (extentsFrom quoting place text).reverse) :
    place ≤ extent.start ∧ extent.start < extent.stop :=
  of_mem_extentsFrom (List.mem_reverse.mp member)

section Character

variable {levels outer : List (List Nat)} {own : List Nat}

/-- A character is copied that no open scope ends at, and that is no quantifier. -/
theorem originsFrom_copied {after : Quoting} {depth inner : Nat}
    (reaches : ∀ more, scopeLength quoting (depth + more) (c :: text) =
      scopeLength after (inner + more) text + 1)
    (same : extentsFrom quoting place (c :: text) = extentsFrom after (place + 1) text)
    (earlier : ∀ quantifier ∈ levels.flatten, quantifier < place) :
    originsFrom (counting quoting place (c :: text) depth levels) place (c :: text) =
      .given place c ::
        originsFrom (counting after (place + 1) text inner levels) (place + 1) text := by
  rw [counting, same, pending_cons reaches]
  -- No scope begins or ends here: those behind begin later, and those that are open began before
  -- and reach further.
  refine originsFrom_given fun extent member => ?_
  rcases List.mem_append.mp member with behind | opened
  · have later := of_mem_reverse behind
    omega
  · obtain ⟨among, more, stop⟩ := of_mem_pending opened
    have before := earlier _ among
    omega

/-- A quantifier has its group opened, and its scope is one more that is open behind it. -/
theorem originsFrom_quantifier (quantified : isQuantifier c text = true)
    (earlier : ∀ quantifier ∈ (own :: outer).flatten, quantifier < place) :
    originsFrom (counting .outside place (c :: text) 0 (own :: outer)) place (c :: text) =
      .opening place :: .given place c ::
        originsFrom (counting .outside (place + 1) text 0 ((place :: own) :: outer)) (place + 1)
          text := by
  obtain ⟨unmarked, opens, closes⟩ := of_isQuantifier quantified
  have uncovered : ¬ Quoting.outside.covers c = true := by simp [unmarked]
  -- A quantifier is no parenthesis, so that all open scopes reach past it.
  have reaches (more : Nat) : scopeLength .outside (0 + more) (c :: text) =
      scopeLength .outside (0 + more) text + 1 := by
    rw [scopeLength, if_neg uncovered, if_neg opens, if_neg closes]
  have opened : pending .outside (place + 1) text 0 ((place :: own) :: outer) =
      ⟨place, place + 1 + scopeLength .outside 0 text⟩ ::
        pending .outside (place + 1) text 0 (own :: outer) := rfl
  rw [counting, counting, extentsFrom, if_neg uncovered, if_pos quantified, pending_cons reaches,
    List.reverse_cons, List.append_assoc, List.singleton_append, opened]
  -- The other scopes begin behind the quantifier or are open already.
  refine originsFrom_opened (by omega) (fun extent member => ?_) fun extent member => ?_
  · have further := of_mem_reverse member
    omega
  · obtain ⟨among, more, stop⟩ := of_mem_pending member
    have before := earlier _ among
    omega

/-- Behind a parenthesis that closes a group, the scopes right around the group are closed, and those
further up are still open. -/
theorem originsFrom_behind (earlier : ∀ quantifier ∈ outer.flatten, quantifier < place) :
    originsFrom ((extentsFrom .outside (place + 1) text).reverse ++
        pending .outside place (')' :: text) 1 outer) (place + 1) text =
      (outer.head?.getD []).map .closing ++
        originsFrom (counting .outside (place + 1) text 0 ([] :: outer.tail)) (place + 1) text := by
  cases outer with
  | nil => rfl
  | cons around others =>
    -- The parenthesis brings the scopes further up one level closer.
    have reaches (more : Nat) : scopeLength .outside (2 + more) (')' :: text) =
        scopeLength .outside (1 + more) text + 1 := by
      rw [scopeLength, if_neg (by simp [isMark]), if_neg (by decide), if_pos rfl,
        if_neg (by omega), if_neg (by omega)]
      congr 2
      omega
    -- Those right around the group end behind the parenthesis.
    have first : pending .outside place (')' :: text) 1 (around :: others) =
        upTo (place + 1) around ++ pending .outside (place + 1) text 0 ([] :: others) := by
      rw [pending, pending_cons reaches]
      simp [pending, upTo, scopeLength, isMark]
    rw [first, originsFrom_upTo]
    · rfl
    · exact fun extent member => by have further := of_mem_reverse member; omega
    · exact fun quantifier member => Nat.lt_succ_of_lt (earlier quantifier (by simp [member]))

/-- A parenthesis that closes a group ends the scopes in the group before it, and those right around
the group behind it. -/
theorem originsFrom_closing (earlier : ∀ quantifier ∈ (own :: outer).flatten, quantifier < place) :
    originsFrom (counting .outside place (')' :: text) 0 (own :: outer)) place (')' :: text) =
      own.map .closing ++ .given place ')' :: ((outer.head?.getD []).map .closing ++
        originsFrom (counting .outside (place + 1) text 0 ([] :: outer.tail)) (place + 1) text) := by
  -- The scopes in the group end in front of its parenthesis.
  have first : pending .outside place (')' :: text) 0 (own :: outer) =
      upTo place own ++ pending .outside place (')' :: text) 1 outer := by
    simp [pending, scopeLength, isMark]
  have same : extentsFrom .outside place (')' :: text) = extentsFrom .outside (place + 1) text := by
    simp [extentsFrom, isMark, isQuantifier]
  have further : ∀ quantifier ∈ outer.flatten, quantifier < place := fun quantifier member =>
    earlier quantifier (List.mem_append_right _ member)
  rw [counting, same, first, originsFrom_upTo, originsFrom_given, originsFrom_behind further]
  · intro extent member
    rcases List.mem_append.mp member with behind | opened
    · have later := of_mem_reverse behind
      omega
    · obtain ⟨among, more, stop⟩ := of_mem_pending opened
      have before := further _ among
      -- One group is open around each of these scopes, so that the parenthesis is inside it.
      have reached : 0 < scopeLength .outside (1 + more) (')' :: text) :=
        Nat.pos_of_ne_zero fun none => by simp [scopeLength_eq_zero_iff] at none
      omega
  · exact fun extent member => by have later := of_mem_reverse member; omega
  · exact fun quantifier member => earlier quantifier (by simp [member])

end Character

/-- What the first pass writes has the origins that the extents of the quantifiers tell. -/
theorem groupOrigins_eq {own : List Nat} {outer : List (Origin × List Nat)}
    (earlier : ∀ quantifier ∈ (own :: outer.map (·.2)).flatten, quantifier < place) :
    groupOrigins quoting own outer place text =
      originsFrom (counting quoting place text 0 (own :: outer.map (·.2))) place text := by
  induction text generalizing quoting own outer place with
  | nil =>
    have whole := @originsFrom_upTo [] [] _ place [] (by simp) earlier
    rw [List.append_nil, List.nil_append] at whole
    rw [groupOrigins, counting, extentsFrom, List.reverse_nil, List.nil_append, pending_nil, whole]
    exact (List.append_nil _).symm
  | cons c text ih =>
    -- The quantifiers that stand before the character stand before the text behind it.
    have later : ∀ quantifier ∈ (own :: outer.map (·.2)).flatten, quantifier < place + 1 :=
      fun quantifier member => Nat.lt_succ_of_lt (earlier quantifier member)
    rw [groupOrigins]
    split
    · rename_i covered
      rw [ih later, originsFrom_copied _ _ earlier]
      · exact fun more => by rw [scopeLength, if_pos covered]
      · rw [extentsFrom, if_pos covered]
    rename_i uncovered
    obtain ⟨rfl, -, -⟩ := Quoting.of_not_covers (by simpa using uncovered)
    split
    · rename_i quantified
      have within : ∀ quantifier ∈ ((place :: own) :: outer.map (·.2)).flatten,
          quantifier < place + 1 :=
        List.forall_mem_cons.mpr ⟨Nat.lt_succ_self place, later⟩
      rw [ih within, originsFrom_quantifier quantified earlier]
    rename_i other
    have same : extentsFrom .outside place (c :: text) = extentsFrom .outside (place + 1) text := by
      rw [extentsFrom, if_neg uncovered, if_neg other]
    split
    · rename_i opens
      -- The scopes that were open in the group are now open around the new one.
      have around : ∀ quantifier ∈ ([] :: own :: outer.map (·.2)).flatten, quantifier < place + 1 :=
        later
      rw [@ih .outside (place + 1) [] ((.given place c, own) :: outer) around,
        originsFrom_copied _ same earlier]
      · rfl
      · intro more
        rw [scopeLength, if_neg uncovered, if_pos opens]
        congr 2
        omega
    rename_i level
    split
    · rename_i closes
      subst closes
      have further : ∀ quantifier ∈ ([] :: outer.tail.map (·.2)).flatten, quantifier < place + 1 := by
        intro quantifier member
        refine later quantifier (List.mem_append_right _ ?_)
        rw [List.map_tail] at member
        cases outer with
        | nil => exact member
        | cons group others => exact List.mem_append_right _ member
      rw [originsFrom_closing earlier, ih further]
      cases outer <;> rfl
    · rename_i plain
      rw [ih later, originsFrom_copied _ same earlier]
      exact fun more => by rw [scopeLength, if_neg uncovered, if_neg level, if_neg plain]

end Extents

/-- What the first pass writes has the origins that the extents of the quantifiers tell. -/
theorem groupOrigins_start (text : List Char) :
    groupOrigins .outside [] [] 0 text = origins text := by
  -- No scope is open in front of the text.
  have nothing : pending .outside 0 text 0 ([] :: List.map (·.2) ([] : List (Origin × List Nat))) =
      [] := rfl
  rw [groupOrigins_eq (by simp), counting, nothing, List.append_nil]
  rfl

/-- The first pass puts parentheses in where the extents of the quantifiers tell. -/
theorem groupQuantifiers_eq (text : List Char) :
    groupQuantifiers text = (origins text).map Origin.char := by
  rw [← groupOrigins_start, char_groupOrigins]
  rfl

end Retrace.Formula
