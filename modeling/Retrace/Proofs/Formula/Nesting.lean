import Retrace.Proofs.Formula.Grammar

/-!
Brackets and commas in terms: a term closes the groups that it opens, so that it is passed over
whole where a group is looked for or cut at its commas.
-/

namespace Retrace.Formula

/-- The characters of names are symbol characters. -/
theorem isSymbolChar_of_isNameChar {c : Char} (inside : isNameChar c = true) :
    isSymbolChar c = true := by
  simp only [isNameChar, Bool.or_eq_true] at inside
  simp only [isSymbolChar, Bool.or_eq_true]
  exact .inl inside

/-- Small letters are symbol characters. -/
theorem isSymbolChar_of_isLower {c : Char} (small : c.isLower = true) : isSymbolChar c = true :=
  isSymbolChar_of_isNameChar (isNameChar_iff.mpr (.inl (.inl (.inr small))))

/-- No symbol character is a quotation mark. -/
theorem isMark_of_isSymbolChar {c : Char} (symbol : isSymbolChar c = true) : isMark c = false := by
  -- There are two quotation marks to look at.
  cases mark : isMark c with
  | false => rfl
  | true =>
    have either : c = '\x27' ∨ c = '"' := by simpa [isMark] using mark
    rcases either with rfl | rfl <;> cases symbol

/-- A character of a name is none that brackets or parts arguments, and no quotation mark. -/
theorem nesting_of_isNameChar {c : Char} (inside : isNameChar c = true) :
    isMark c = false ∧ ∀ d ∈ ['(', ')', '[', ']', ','], c ≠ d :=
  ⟨isMark_of_isSymbolChar (isSymbolChar_of_isNameChar inside),
    forall_ne_of_isNameChar inside (by decide)⟩

/-- A text that closes the groups it opens. Commas stand in groups only, and anywhere in what a
group encloses. -/
inductive Balanced : (enclosed : Bool) → List Char → Prop where
  | nil {enclosed : Bool} : Balanced enclosed []
  | name {enclosed : Bool} {c : Char} {rest : List Char} (inside : isNameChar c = true)
    (others : Balanced enclosed rest) : Balanced enclosed (c :: rest)
  | comma {rest : List Char} (others : Balanced true rest) : Balanced true (',' :: rest)
  | group {enclosed : Bool} {inner rest : List Char} (content : Balanced true inner)
    (others : Balanced enclosed rest) : Balanced enclosed ('(' :: (inner ++ ')' :: rest))

namespace Balanced

variable {enclosed : Bool} {text : List Char}

/-- Names are balanced. -/
theorem of_name {name : List Char} (named : ∀ c ∈ name, isNameChar c = true) :
    Balanced enclosed name := by
  induction name with
  | nil => exact .nil
  | cons c name ih =>
    have later := ih fun d member => named d (List.mem_cons_of_mem _ member)
    exact .name (named c List.mem_cons_self) later

/-- One balanced text after the other is balanced. -/
theorem append (balanced : Balanced enclosed text) {rest : List Char}
    (others : Balanced enclosed rest) : Balanced enclosed (text ++ rest) := by
  -- What follows is put behind the innermost rest.
  induction balanced with
  | nil => exact others
  | name inside _ ih => exact .name inside (ih others)
  | comma _ ih => exact .comma (ih others)
  | @group enclosed inner behind content _ _ ih =>
    have whole := Balanced.group content (ih others)
    simpa using whole

/-- A balanced text does not close the group that it stands in. -/
theorem splitGroup_append (balanced : Balanced enclosed text) {depth : Nat}
    {rest inner after : List Char} (found : splitGroup none depth rest = some (inner, after)) :
    splitGroup none depth (text ++ rest) = some (text ++ inner, after) := by
  induction balanced generalizing depth rest inner with
  | nil => exact found
  | @name _ c _ inside _ ih =>
    obtain ⟨unquoted, others⟩ := nesting_of_isNameChar inside
    simp only [List.mem_cons, List.not_mem_nil, or_false, forall_eq_or_imp, forall_eq] at others
    simp [splitGroup, toggle, unquoted, others, ih found]
  | comma _ ih => simp [splitGroup, toggle, isMark, ih found]
  | @group _ content behind _ _ enclosed ih =>
    -- The closing parenthesis leads back to the depth that the group was opened at.
    have closed : splitGroup none (depth + 1) (')' :: (behind ++ rest)) =
        some (')' :: (behind ++ inner), after) := by
      simp [splitGroup, toggle, isMark, ih found]
    have opened := enclosed closed
    simp [splitGroup, toggle, isMark, opened]

/-- No comma of a balanced text separates, unless it is enclosed and the group is left out. -/
theorem cutAtCommas_append (balanced : Balanced enclosed text) {depth : Nat}
    (deep : enclosed = true → 0 < depth) {rest piece : List Char} {pieces : List (List Char)}
    (cut : cutAtCommas ⟨none, depth⟩ rest = piece :: pieces) :
    cutAtCommas ⟨none, depth⟩ (text ++ rest) = (text ++ piece) :: pieces := by
  -- A comma counts at depth zero only, and an enclosed text is never read there.
  induction balanced generalizing depth rest piece with
  | nil => exact cut
  | @name _ c _ inside _ ih =>
    obtain ⟨unquoted, others⟩ := nesting_of_isNameChar inside
    simp only [List.mem_cons, List.not_mem_nil, or_false, forall_eq_or_imp, forall_eq] at others
    simp [cutAtCommas, Nesting.separates, Nesting.next, toggle, unquoted, others, ih deep cut]
  | comma _ ih =>
    have below := deep rfl
    simp [cutAtCommas, Nesting.separates, Nesting.next, toggle, isMark, ih deep cut,
      show depth ≠ 0 by omega]
  | @group _ content behind _ _ enclosed ih =>
    have closed : cutAtCommas ⟨none, depth + 1⟩ (')' :: (behind ++ rest)) =
        (')' :: (behind ++ piece)) :: pieces := by
      simp [cutAtCommas, Nesting.separates, Nesting.next, toggle, isMark, ih deep cut]
    -- Inside its parentheses a group is enclosed, however deep it stands.
    have opened := enclosed (by omega) closed
    simp [cutAtCommas, Nesting.separates, Nesting.next, toggle, isMark, opened]

end Balanced

mutual

/-- Terms are balanced. -/
theorem Term.balanced (term : Term) (enclosed : Bool) :
    Balanced enclosed (term.render .grouped) := by
  -- The arguments stand in the group that their application opens.
  cases term with
  | var name => exact .of_name fun _ member => Variable.isNameChar_of_mem member
  | constant name => exact .of_name fun _ member => Constant.isNameChar_of_mem member
  | application head arguments =>
    have named : Balanced enclosed head.chars := .of_name fun _ member =>
      Constant.isNameChar_of_mem member
    have whole := named.append (.group arguments.balanced .nil)
    simpa [Term.render, Rendering.given, Rendering.grouped] using whole

/-- Arguments are balanced inside the parentheses of their application. -/
theorem Arguments.balanced (arguments : Arguments) :
    Balanced true (arguments.render .grouped) := by
  cases arguments with
  | last argument => exact argument.balanced true
  | more argument others => exact (argument.balanced true).append (.comma others.balanced)

end

end Retrace.Formula
