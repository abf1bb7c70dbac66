import Retrace.Proofs.Justification.Rest
import Retrace.Proofs.Text.Runs

/-!
The grammar of justifications, and the proof that they are read by it: what the readers find is
derived by the grammar, and whatever is derived they find.
-/

namespace Retrace.Justification

open Text (skipLayout AllLayout skipLayout_eq_iff)

/-- A symbol is a run of symbol characters that is not empty. -/
def IsSymbol (name : List Char) : Prop :=
  name ≠ [] ∧ ∀ c ∈ name, isSymbolChar c = true

instance (name : List Char) : Decidable (IsSymbol name) :=
  decidable_of_iff (name ≠ [] ∧ name.all isSymbolChar = true) (and_congr_right' List.all_eq_true)

mutual

/-- The texts that are items, and the terms that they denote. -/
inductive ItemText : List Char → Term → Prop
  /-- A list stands between square brackets. -/
  | bracketed {inner layout : List Char} {members : List Term} (derived : ItemsText inner members)
      (blank : AllLayout layout) : ItemText ('[' :: (inner ++ layout ++ [']'])) (.list members)
  /-- Any text without the quotation mark may stand between two of them. -/
  | quoted {mark : Char} {inner : List Char} (quotes : mark = '\x27' ∨ mark = '"')
      (unmarked : mark ∉ inner) : ItemText (mark :: (inner ++ [mark])) (.atom (String.ofList inner))
  /-- A symbol stands for itself. -/
  | symbol {name : List Char} (named : IsSymbol name) : ItemText name (.atom (String.ofList name))
  /-- A symbol is applied to what stands between the parentheses behind it. -/
  | application {name inner layout : List Char} {arguments : List Term} (named : IsSymbol name)
      (derived : ItemsText inner arguments) (blank : AllLayout layout) :
      ItemText (name ++ '(' :: (inner ++ layout ++ [')']))
        (.list (.atom (String.ofList name) :: arguments))

/-- The texts that are several items, with commas between them. -/
inductive ItemsText : List Char → List Term → Prop
  | nothing : ItemsText [] []
  | first {layout body others : List Char} {item : Term} {items : List Term}
      (blank : AllLayout layout) (derived : ItemText body item) (behind : MoreText others items) :
      ItemsText (layout ++ (body ++ others)) (item :: items)

/-- The texts that are further items, each behind a comma. -/
inductive MoreText : List Char → List Term → Prop
  | nothing : MoreText [] []
  | next {before layout body others : List Char} {item : Term} {items : List Term}
      (parted : AllLayout before) (blank : AllLayout layout) (derived : ItemText body item)
      (behind : MoreText others items) :
      MoreText (before ++ ',' :: (layout ++ (body ++ others))) (item :: items)

end

/-- The terms that a whole justification denotes: it holds items, and layout behind them. -/
def Denotes (text : List Char) (terms : List Term) : Prop :=
  ∃ front layout, ItemsText front terms ∧ AllLayout layout ∧ text = front ++ layout

/-- The text starts with an item behind layout, and the rest follows. -/
def HasItem (text : List Char) (item : Term) (rest : List Char) : Prop :=
  ∃ layout body, AllLayout layout ∧ ItemText body item ∧ text = layout ++ (body ++ rest)

/-- The text starts with items up to a closing bracket, and the rest follows. -/
def HasGroup (bracket : Char) (text : List Char) (members : List Term) (rest : List Char) : Prop :=
  ∃ inner layout, ItemsText inner members ∧ AllLayout layout ∧
    text = inner ++ (layout ++ bracket :: rest)

/-- The text starts with items, and the rest follows. -/
def HasItems (text : List Char) (members : List Term) (rest : List Char) : Prop :=
  ∃ front, ItemsText front members ∧ text = front ++ rest

/-- The text starts with items behind commas, and the rest follows. -/
def HasMore (text : List Char) (members : List Term) (rest : List Char) : Prop :=
  ∃ front, MoreText front members ∧ text = front ++ rest

/-- A text is split at the first mark in it. -/
theorem splitAtMark?_eq_some_iff {mark : Char} {text before after : List Char} :
    splitAtMark? mark text = some (before, after) ↔
      text = before ++ mark :: after ∧ mark ∉ before := by
  induction text generalizing before with
  | nil => simp [splitAtMark?]
  | cons c text ih =>
    rw [splitAtMark?]
    by_cases same : c = mark
    · -- The mark itself belongs to neither part.
      rw [if_pos same]
      cases before with
      | nil => simp [same]
      | cons d before =>
        simp only [Option.some.injEq, Prod.mk.injEq, reduceCtorEq, false_and, List.cons_append,
          List.cons.injEq, List.mem_cons, not_or, false_iff, not_and]
        rintro ⟨rfl, -⟩ other
        exact absurd same.symm other
    · -- Any other character stands in front of the mark, and the rest is split behind it.
      rw [if_neg same, Option.map_eq_some_iff]
      constructor
      · rintro ⟨⟨front, back⟩, found, equal⟩
        obtain ⟨rfl, rfl⟩ := Prod.mk.inj equal
        obtain ⟨rfl, unmarked⟩ := ih.mp found
        exact ⟨rfl, by simp [Ne.symm same, unmarked]⟩
      · rintro ⟨whole, unmarked⟩
        cases before with
        | nil => exact absurd (List.cons.inj whole).1 same
        | cons d before =>
          obtain ⟨rfl, rfl⟩ := List.cons.inj whole
          exact ⟨(before, after), ih.mpr ⟨rfl, fun member => unmarked (by simp [member])⟩, rfl⟩

section Soundness

variable {text rest : List Char} {item : Term}

/-- No item is empty. -/
theorem ItemText.ne_nil {body : List Char} (derived : ItemText body item) : body ≠ [] := by
  -- All items but symbols start with a mark or hold a parenthesis.
  cases derived with
  | symbol named => exact named.1
  | _ => simp

/-- What follows an item is shorter than the text. -/
theorem HasItem.shorter (has : HasItem text item rest) : rest.length < text.length := by
  obtain ⟨layout, body, -, derived, rfl⟩ := has
  have shown := List.length_pos_iff.mpr derived.ne_nil
  simp only [List.length_append]
  omega

/-- A symbol character behind layout starts an item: the longest run of symbol characters is a symbol,
and an atom that may be followed by anything. -/
theorem hasItem_symbol {c : Char} {layout tail : List Char} (blank : AllLayout layout)
    (symbolic : isSymbolChar c = true) (whole : text = layout ++ c :: tail) :
    IsSymbol (c :: tail.takeWhile isSymbolChar) ∧
      text = layout ++ (c :: tail.takeWhile isSymbolChar ++ tail.dropWhile isSymbolChar) ∧
      HasItem text (.atom (String.ofList (c :: tail.takeWhile isSymbolChar)))
        (tail.dropWhile isSymbolChar) := by
  have named : IsSymbol (c :: tail.takeWhile isSymbolChar) := by
    refine ⟨by simp, fun d member => ?_⟩
    rcases List.mem_cons.mp member with rfl | inside
    · exact symbolic
    · exact List.mem_takeWhile_imp inside
  -- What is taken for the symbol and what is left make up the text.
  have run : text = layout ++ (c :: tail.takeWhile isSymbolChar ++
      tail.dropWhile isSymbolChar) := by
    rw [List.cons_append, List.takeWhile_append_dropWhile, whole]
  exact ⟨named, run, layout, _, blank, .symbol named, run⟩

/-- An item that is read is derived, if this holds of groups in shorter texts. -/
theorem hasItem_of_itemAt?
    (groups : ∀ shorter : List Char, shorter.length < text.length → ∀ bracket members rest,
      groupAt? bracket shorter = some (members, rest) → HasGroup bracket shorter members rest)
    (read : itemAt? text = some (item, rest)) : HasItem text item rest := by
  rw [itemAt?_eq] at read
  obtain ⟨⟨layout, blank, whole⟩, -⟩ := skipLayout_eq_iff.mp (rfl : skipLayout text = _)
  -- The first character behind the layout tells which kind of item it starts.
  cases shown : skipLayout text with
  | nil => simp [shown] at read
  | cons c tail =>
    rw [shown] at whole read
    simp only at read
    have smaller : tail.length < text.length := by
      rw [whole, List.length_append, List.length_cons]
      omega
    split at read
    · -- A group in square brackets is read behind the bracket that opens it.
      rename_i opens
      obtain ⟨⟨members, behind⟩, grouped, same⟩ := Option.map_eq_some_iff.mp read
      obtain ⟨rfl, rfl⟩ := Prod.mk.inj same
      obtain ⟨inner, between, derived, spaces, rfl⟩ := groups tail smaller _ _ _ grouped
      exact ⟨layout, _, blank, .bracketed derived spaces, by simp [whole, opens]⟩
    split at read
    · -- A quoted text goes up to the same quotation mark.
      rename_i quotes
      obtain ⟨⟨inner, behind⟩, cut, same⟩ := Option.map_eq_some_iff.mp read
      obtain ⟨rfl, rfl⟩ := Prod.mk.inj same
      obtain ⟨rfl, unmarked⟩ := splitAtMark?_eq_some_iff.mp cut
      exact ⟨layout, _, blank, .quoted quotes unmarked, by simp [whole]⟩
    split at read
    · rename_i symbolic
      obtain ⟨named, run, alone⟩ := hasItem_symbol blank symbolic whole
      split at read
      · -- A parenthesis right behind the symbol may open its arguments.
        rename_i inner opened
        have smaller : inner.length < text.length := by
          have bound := (List.dropWhile_sublist isSymbolChar (l := tail)).length_le
          rw [opened, List.length_cons] at bound
          omega
        split at read
        · rename_i arguments behind grouped
          obtain ⟨rfl, rfl⟩ := Prod.mk.inj (Option.some.inj read)
          obtain ⟨front, between, derived, spaces, rfl⟩ := groups inner smaller _ _ _ grouped
          refine ⟨layout, _, blank, .application named derived spaces, ?_⟩
          rw [run, opened]
          simp
        · -- If it does not, the symbol is an atom and the parenthesis is left.
          obtain ⟨rfl, rfl⟩ := Prod.mk.inj (Option.some.inj read)
          exact alone
      · obtain ⟨rfl, rfl⟩ := Prod.mk.inj (Option.some.inj read)
        exact alone
    · cases read

/-- A sign stands behind layout. -/
theorem of_signAt? {sign : Char} (read : signAt? sign text = some rest) :
    ∃ layout, AllLayout layout ∧ text = layout ++ sign :: rest :=
  (skipLayout_eq_iff.mp (signAt?_eq_some_iff.mp read)).1

/-- Items that are read are derived, if the first one is and this holds of those behind it. -/
theorem hasItems_itemsAt (first : ∀ item rest, itemAt? text = some (item, rest) →
      HasItem text item rest)
    (others : ∀ shorter : List Char, shorter.length < text.length →
      HasMore shorter (moreAt shorter).1 (moreAt shorter).2) :
    HasItems text (itemsAt text).1 (itemsAt text).2 := by
  rw [itemsAt_eq]
  -- Without a first item there is none at all.
  cases read : itemAt? text with
  | none => exact ⟨[], .nothing, rfl⟩
  | some found =>
    obtain ⟨item, rest⟩ := found
    have has := first item rest read
    obtain ⟨front, behind, later⟩ := others rest has.shorter
    obtain ⟨layout, body, blank, derived, whole⟩ := has
    refine ⟨_, .first blank derived behind, ?_⟩
    rw [whole]
    simp only [List.append_assoc, ← later]

/-- A group that is read is derived, if its items are. -/
theorem hasGroup_of_groupAt? (members : HasItems text (itemsAt text).1 (itemsAt text).2)
    {bracket : Char} {found : List Term} (read : groupAt? bracket text = some (found, rest)) :
    HasGroup bracket text found rest := by
  rw [groupAt?_eq] at read
  -- The bracket stands behind the items, with layout between them.
  obtain ⟨behind, closed, same⟩ := Option.map_eq_some_iff.mp read
  obtain ⟨rfl, rfl⟩ := Prod.mk.inj same
  obtain ⟨front, derived, whole⟩ := members
  obtain ⟨layout, blank, left⟩ := of_signAt? closed
  exact ⟨front, layout, derived, blank, by rw [← left, ← whole]⟩

/-- Further items that are read are derived, if this holds of shorter texts. -/
theorem hasMore_moreAt
    (first : ∀ shorter : List Char, shorter.length < text.length → ∀ item rest,
      itemAt? shorter = some (item, rest) → HasItem shorter item rest)
    (others : ∀ shorter : List Char, shorter.length < text.length →
      HasMore shorter (moreAt shorter).1 (moreAt shorter).2) :
    HasMore text (moreAt text).1 (moreAt text).2 := by
  -- Without a comma or an item behind it nothing is read.
  have nothing : HasMore text [] text := ⟨[], .nothing, rfl⟩
  rw [moreAt_eq]
  cases parted : signAt? ',' text with
  | none => exact nothing
  | some after =>
    obtain ⟨before, spaces, whole⟩ := of_signAt? parted
    have smaller : after.length < text.length := by
      rw [whole, List.length_append, List.length_cons]
      omega
    cases read : itemAt? after with
    | none => simpa [read] using nothing
    | some found =>
      obtain ⟨item, rest⟩ := found
      -- The item and what is read behind it both leave less of the text.
      have has := first after smaller item rest read
      obtain ⟨front, behind, later⟩ := others rest (Nat.lt_trans has.shorter smaller)
      obtain ⟨layout, body, blank, derived, inner⟩ := has
      simp only [read]
      refine ⟨_, .next spaces blank derived behind, ?_⟩
      rw [whole, inner]
      simp only [List.append_assoc, List.cons_append, ← later]

/-- Whatever is read is derived. -/
theorem has_read (size : Nat) :
    ∀ text : List Char, text.length = size →
      (∀ item rest, itemAt? text = some (item, rest) → HasItem text item rest) ∧
        (∀ bracket members rest, groupAt? bracket text = some (members, rest) →
          HasGroup bracket text members rest) ∧
        HasItems text (itemsAt text).1 (itemsAt text).2 ∧
        HasMore text (moreAt text).1 (moreAt text).2 := by
  -- Through the others, a reader calls itself on shorter texts only.
  induction size using Nat.strongRecOn with
  | ind size ih =>
    intro text sized
    have shorter (part : List Char) (less : part.length < text.length) :=
      ih part.length (sized ▸ less) part rfl
    have item : ∀ item rest, itemAt? text = some (item, rest) → HasItem text item rest :=
      fun _ _ => hasItem_of_itemAt? fun part less => (shorter part less).2.1
    have items := hasItems_itemsAt item fun part less => (shorter part less).2.2.2
    have more := hasMore_moreAt (fun part less => (shorter part less).1)
      fun part less => (shorter part less).2.2.2
    exact ⟨item, fun _ _ _ => hasGroup_of_groupAt? items, items, more⟩

end Soundness

section Completeness

variable {text rest layout : List Char} {items : List Term}

/-- No layout character is a symbol character. -/
theorem isSymbolChar_of_isLayout {c : Char} (blank : Text.isLayout c = true) :
    isSymbolChar c = false := by
  rcases Text.isLayout_iff.mp blank with rfl | rfl | rfl | rfl <;> rfl

/-- Layout in front of an item makes no difference. -/
theorem itemAt?_layout (blank : AllLayout layout) : itemAt? (layout ++ text) = itemAt? text := by
  have skipped : skipLayout (layout ++ text) = skipLayout text :=
    List.dropWhile_append_of_pos blank
  rw [itemAt?_eq, itemAt?_eq, skipped]

/-- A text in which the items before it cannot go on: it is empty, or a closing bracket stands behind
its layout. -/
def Closes (text : List Char) : Prop :=
  ∃ layout after, AllLayout layout ∧ text = layout ++ after ∧
    ∀ c ∈ after.head?, c = ']' ∨ c = ')'

/-- The bracket that closes a group ends its items, behind layout too. -/
theorem Closes.of_bracket {bracket : Char} (closing : bracket = ']' ∨ bracket = ')')
    (blank : AllLayout layout) : Closes (layout ++ bracket :: rest) :=
  ⟨layout, bracket :: rest, blank, rfl, by simpa using closing⟩

/-- Behind its layout, a text that closes has no character that could start an item or part two. -/
theorem Closes.skipLayout_eq (closes : Closes text) :
    ∃ after, skipLayout text = after ∧ ∀ c ∈ after.head?, c = ']' ∨ c = ')' := by
  obtain ⟨layout, after, blank, whole, ends⟩ := closes
  refine ⟨after, skipLayout_eq_iff.mpr ⟨⟨layout, blank, whole⟩, fun c first => ?_⟩, ends⟩
  rcases ends c first with rfl | rfl <;> rfl

/-- No item is read where items close. -/
theorem Closes.itemAt?_eq_none (closes : Closes text) : itemAt? text = none := by
  obtain ⟨after, skipped, ends⟩ := closes.skipLayout_eq
  rw [itemAt?_eq, skipped]
  -- A closing bracket starts no item.
  cases after with
  | nil => rfl
  | cons c after =>
    rcases ends c rfl with rfl | rfl <;> rfl

/-- No further item is read where items close. -/
theorem Closes.moreAt_eq (closes : Closes text) : moreAt text = ([], text) := by
  obtain ⟨after, skipped, ends⟩ := closes.skipLayout_eq
  -- A closing bracket is no comma.
  have unparted : signAt? ',' text = none := by
    rw [Option.eq_none_iff_forall_ne_some]
    intro rest parted
    rw [signAt?_eq_some_iff, skipped] at parted
    subst parted
    rcases ends ',' rfl with same | same <;> cases same
  rw [Justification.moreAt_eq, unparted]

/-- A text that does not continue a symbol or apply it to arguments. -/
def EndsSymbol (text : List Char) : Prop :=
  ∀ c ∈ text.head?, isSymbolChar c = false ∧ c ≠ '('

/-- Layout and what does not continue a symbol itself does not continue a symbol. -/
theorem EndsSymbol.behind_layout (blank : AllLayout layout) (ends : EndsSymbol text) :
    EndsSymbol (layout ++ text) := by
  -- If there is layout, it is what the symbol meets.
  cases layout with
  | nil => exact ends
  | cons c layout =>
    intro d first
    obtain rfl : c = d := by simpa using first
    have white := blank c List.mem_cons_self
    exact ⟨isSymbolChar_of_isLayout white, by rintro rfl; cases white⟩

/-- Where items close, no symbol goes on. -/
theorem Closes.endsSymbol (closes : Closes text) : EndsSymbol text := by
  obtain ⟨layout, after, blank, rfl, ends⟩ := closes
  refine EndsSymbol.behind_layout blank fun c first => ?_
  rcases ends c first with rfl | rfl <;> exact ⟨rfl, by decide⟩

/-- Neither does a symbol go on where further items follow. -/
theorem MoreText.endsSymbol {others : List Char} (derived : MoreText others items)
    (closes : Closes rest) :
    EndsSymbol (others ++ rest) := by
  -- A further item shows by its comma.
  cases derived with
  | nothing => exact closes.endsSymbol
  | next parted =>
    rw [List.append_assoc]
    refine EndsSymbol.behind_layout parted fun c first => ?_
    obtain rfl : ',' = c := by simpa using first
    exact ⟨rfl, by decide⟩

/-- A group is read if its items are. -/
theorem groupAt?_of_itemsAt {bracket : Char} {inner : List Char} (blank : AllLayout layout)
    (shown : Text.isLayout bracket = false)
    (read : itemsAt (inner ++ (layout ++ bracket :: rest)) = (items, layout ++ bracket :: rest)) :
    groupAt? bracket (inner ++ (layout ++ bracket :: rest)) = some (items, rest) := by
  have closed : signAt? bracket (layout ++ bracket :: rest) = some rest :=
    signAt?_eq_some_iff.mpr
      (skipLayout_eq_iff.mpr ⟨⟨layout, blank, rfl⟩, by simpa using shown⟩)
  -- The items end where the layout before the bracket starts.
  rw [groupAt?_eq, read, closed]
  rfl

/-- A text that starts with a character other than layout has nothing to skip. -/
theorem skipLayout_cons {c : Char} (shown : Text.isLayout c = false) :
    skipLayout (c :: rest) = c :: rest :=
  List.dropWhile_cons_of_neg (by simp [shown])

/-- A symbol is read to its end, and its arguments behind it if they can be read. -/
theorem itemAt?_symbol {name : List Char} (named : IsSymbol name) :
    (∀ c ∈ rest.head?, isSymbolChar c = false) →
    itemAt? (name ++ rest) = match rest with
      | '(' :: inner =>
        match groupAt? ')' inner with
        | some (arguments, behind) =>
          some (.list (.atom (String.ofList name) :: arguments), behind)
        | none => some (.atom (String.ofList name), rest)
      | _ => some (.atom (String.ofList name), rest) := by
  intro ends
  obtain ⟨nonempty, symbolic⟩ := named
  cases name with
  | nil => exact absurd rfl nonempty
  | cons c tail =>
    have first : isSymbolChar c = true := symbolic c List.mem_cons_self
    -- Neither layout nor a bracket or a quotation mark is a symbol character.
    have shown : Text.isLayout c = false := by
      by_contra blank
      rw [isSymbolChar_of_isLayout (by simpa using blank)] at first
      cases first
    have plain : c ≠ '[' ∧ c ≠ '\x27' ∧ c ≠ '"' := by
      refine ⟨?_, ?_, ?_⟩ <;> rintro rfl <;> cases first
    -- The run of symbol characters ends with the name.
    obtain ⟨taken, left⟩ := (@Text.takeWhile_dropWhile_iff isSymbolChar _ _ _).mpr
      ⟨rfl, fun d member => symbolic d (List.mem_cons_of_mem _ member), ends⟩
    have read := itemAt?_eq (c :: (tail ++ rest))
    simp only [skipLayout_cons shown, plain, first, taken, left, or_self, if_false, if_true] at read
    exact read

mutual

/-- An item that is derived is read, unless it is a symbol that goes on. -/
theorem ItemText.read {body rest : List Char} {item : Term} (derived : ItemText body item)
    (ends : EndsSymbol rest) :
    itemAt? (body ++ rest) = some (item, rest) := by
  cases derived with
  | @bracketed inner layout members derived blank =>
    have closes : Closes (layout ++ ']' :: rest) := .of_bracket (.inl rfl) blank
    have grouped := groupAt?_of_itemsAt blank rfl (ItemsText.read derived closes)
    have whole : '[' :: (inner ++ layout ++ [']']) ++ rest =
        '[' :: (inner ++ (layout ++ ']' :: rest)) := by simp
    rw [itemAt?_eq, whole, skipLayout_cons rfl]
    simp only [if_true, grouped, Option.map_some]
  | @quoted mark inner quotes unmarked =>
    -- The second quotation mark is the first one behind the text.
    have cut : splitAtMark? mark (inner ++ mark :: rest) = some (inner, rest) :=
      splitAtMark?_eq_some_iff.mpr ⟨rfl, unmarked⟩
    have whole : mark :: (inner ++ [mark]) ++ rest = mark :: (inner ++ mark :: rest) := by simp
    rw [itemAt?_eq, whole]
    rcases quotes with rfl | rfl <;> rw [skipLayout_cons rfl] <;> simp [cut]
  | symbol named =>
    rw [itemAt?_symbol named fun c first => (ends c first).1]
    -- No parenthesis follows, so there are no arguments to look for.
    split
    · exact absurd rfl (ends '(' rfl).2
    · rfl
  | @application name inner layout arguments named derived blank =>
    have closes : Closes (layout ++ ')' :: rest) := .of_bracket (.inr rfl) blank
    have grouped := groupAt?_of_itemsAt blank rfl (ItemsText.read derived closes)
    have whole : name ++ '(' :: (inner ++ layout ++ [')']) ++ rest =
        name ++ '(' :: (inner ++ (layout ++ ')' :: rest)) := by simp
    rw [whole, itemAt?_symbol named (by simp; rfl)]
    simp only [grouped]

/-- Items that are derived are read, up to where they close. -/
theorem ItemsText.read {body rest : List Char} {items : List Term} (derived : ItemsText body items)
    (closes : Closes rest) :
    itemsAt (body ++ rest) = (items, rest) := by
  -- The reader stops for want of an item, and goes on behind the first one.
  cases derived with
  | nothing => rw [itemsAt_eq, List.nil_append, closes.itemAt?_eq_none]
  | @first layout body others item items blank derived behind =>
    have first := ItemText.read derived (behind.endsSymbol closes)
    rw [itemsAt_eq, List.append_assoc, List.append_assoc, itemAt?_layout blank, first]
    simp only [MoreText.read behind closes]

/-- Further items that are derived are read, up to where they close. -/
theorem MoreText.read {body rest : List Char} {items : List Term} (derived : MoreText body items)
    (closes : Closes rest) :
    moreAt (body ++ rest) = (items, rest) := by
  -- The reader stops for want of a comma, and goes on behind the next item.
  cases derived with
  | nothing => exact closes.moreAt_eq
  | @next before layout body others item items parted blank derived behind =>
    have first := ItemText.read derived (behind.endsSymbol closes)
    have whole : before ++ ',' :: (layout ++ (body ++ others)) ++ rest =
        before ++ ',' :: (layout ++ (body ++ (others ++ rest))) := by simp
    have sign : signAt? ',' (before ++ ',' :: (layout ++ (body ++ (others ++ rest)))) =
        some (layout ++ (body ++ (others ++ rest))) :=
      signAt?_eq_some_iff.mpr (skipLayout_eq_iff.mpr ⟨⟨before, parted, rfl⟩, by simp; rfl⟩)
    rw [moreAt_eq, whole, sign]
    simp only [itemAt?_layout blank, first, MoreText.read behind closes]

end

end Completeness

/-- A justification is read as the terms that it denotes, and only if there are any. -/
theorem readAll_eq_ok_iff {text : List Char} {terms : List Term} :
    readAll text = .ok terms ↔ Denotes text terms := by
  rw [readAll_eq_ok_itemsAt_iff]
  constructor
  · rintro ⟨nothing, rfl⟩
    obtain ⟨front, derived, whole⟩ := (has_read _ text rfl).2.2.1
    exact ⟨front, _, derived, Text.skipLayout_eq_nil_iff.mp nothing, whole⟩
  · rintro ⟨front, layout, derived, blank, rfl⟩
    -- The items are read up to the layout behind them, which closes the text.
    have closes : Closes layout := ⟨layout, [], blank, (List.append_nil _).symm, by simp⟩
    rw [derived.read closes]
    exact ⟨Text.skipLayout_eq_nil_iff.mpr blank, rfl⟩

/-- A justification is read exactly if it is derived by the grammar, and then as the terms that it
denotes. Any other justification is answered with the fault that it cannot be read. -/
theorem terms_derives (justification : String) :
    (∀ found, terms justification = .ok found ↔ Denotes justification.toList found) ∧
      ((∃ reason, terms justification = .error (.badJustification justification reason)) ↔
        ¬ ∃ found, Denotes justification.toList found) := by
  simp only [← readAll_eq_ok_iff]
  unfold terms
  -- Whatever problem the reader has, it is reported as the same kind of fault.
  cases readAll justification.toList with
  | ok found => simp [Except.mapError]
  | error problem => simp [Except.mapError, Problem.fault]

end Retrace.Justification
