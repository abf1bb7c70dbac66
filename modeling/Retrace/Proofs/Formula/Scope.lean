import Retrace.Proofs.Formula.Grammar

/-!
Grouping quantifiers, the first pass: every quantifier of a formula gets parentheses around itself
and its scope.
-/

namespace Retrace.Formula

/-- A plain character opens and ends nothing. -/
def isPlain (c : Char) : Bool :=
  ! isMark c && c != '!' && c != '?' && c != '(' && c != ')'

/-- The characters of names are plain. -/
theorem isPlain_of_isNameChar {c : Char} (inside : isNameChar c = true) : isPlain c = true := by
  have others : ∀ d ∈ ['\x27', '"', '!', '?', '(', ')'], c ≠ d :=
    forall_ne_of_isNameChar inside (by decide)
  simp_all [isPlain, isMark]

section Steps

variable {depth : Nat} {scopes : List Nat}

/-- Plain characters are copied. -/
theorem groupFrom_append (front rest : List Char) (plain : front.all isPlain = true) :
    groupFrom .outside depth scopes (front ++ rest) =
      front ++ groupFrom .outside depth scopes rest := by
  induction front with
  | nil => rfl
  | cons c front ih =>
    -- The character is none of those that the pass looks for.
    obtain ⟨first, later⟩ := Bool.and_eq_true_iff.mp plain
    simp only [isPlain, Bool.and_eq_true, Bool.not_eq_true', bne_iff_ne] at first
    simp [groupFrom, isQuantifier, first, ih later]

/-- An exclamation mark before an equals sign is no quantifier. -/
theorem groupFrom_unequal (rest : List Char) :
    groupFrom .outside depth scopes ('!' :: '=' :: rest) =
      '!' :: '=' :: groupFrom .outside depth scopes rest := by
  simp [groupFrom, isQuantifier, isMark]

/-- An opening parenthesis goes one level down. -/
theorem groupFrom_open (rest : List Char) :
    groupFrom .outside depth scopes ('(' :: rest) =
      '(' :: groupFrom .outside (depth + 1) scopes rest := by
  simp [groupFrom, isQuantifier, isMark]

/-- A quantifier opens a group and a scope that ends at its level. -/
theorem groupFrom_quantifier (quantifier : Quantifier) (depth : Nat) (scopes : List Nat)
    (rest : List Char) :
    groupFrom .outside depth scopes (quantifier.mark :: '[' :: rest) =
      '(' :: quantifier.mark :: '[' :: groupFrom .outside depth (depth :: scopes) rest := by
  cases quantifier <;> simp [Quantifier.mark, groupFrom, isQuantifier, isMark]

/-- Scopes that began further up are none that began at the given level. -/
theorem while_level {level : Nat} (below : ∀ scope ∈ scopes, scope < level) :
    scopes.takeWhile (· == level) = [] ∧ scopes.dropWhile (· == level) = scopes := by
  -- It is enough to look at the innermost scope.
  cases scopes with
  | nil => exact ⟨rfl, rfl⟩
  | cons scope outer =>
    have less := below scope List.mem_cons_self
    simp [show scope ≠ level by omega]

/-- The scopes that began at the given level stand on top of those that began further up. -/
theorem while_level_replicate {level : Nat} (count : Nat)
    (below : ∀ scope ∈ scopes, scope < level) :
    (List.replicate count level ++ scopes).takeWhile (· == level) = List.replicate count level ∧
      (List.replicate count level ++ scopes).dropWhile (· == level) = scopes := by
  obtain ⟨none, others⟩ := while_level below
  have same : ∀ scope ∈ List.replicate count level, (scope == level) = true := by
    intro scope member
    rw [List.eq_of_mem_replicate member, beq_self_eq_true]
  rw [List.takeWhile_append_of_pos same, List.dropWhile_append_of_pos same, none, others,
    List.append_nil]
  exact ⟨rfl, rfl⟩

/-- One level down, all scopes that are open began further up. -/
theorem below_succ {outer : List Nat} (count : Nat) (below : ∀ scope ∈ outer, scope < depth) :
    ∀ scope ∈ List.replicate count depth ++ outer, scope < depth + 1 := by
  -- The new scopes began one level up, and the others above them.
  intro scope member
  rcases List.mem_append.mp member with same | further
  · rw [List.eq_of_mem_replicate same]
    omega
  · have less := below scope further
    omega

/-- A closing parenthesis ends the scopes of its group before it and those of the level that it goes
back to behind it, and no others. -/
theorem groupFrom_closeGroup {outer : List Nat} (inner count : Nat) (rest : List Char)
    (below : ∀ scope ∈ outer, scope < depth) :
    groupFrom .outside (depth + 1)
        (List.replicate inner (depth + 1) ++ (List.replicate count depth ++ outer)) (')' :: rest) =
      List.replicate inner ')' ++ ')' :: (List.replicate count ')' ++
        groupFrom .outside depth outer rest) := by
  obtain ⟨deeper, others⟩ := while_level_replicate inner (below_succ count below)
  obtain ⟨same, further⟩ := while_level_replicate count below
  -- The two kinds of scopes stand one above the other.
  simp [groupFrom, isQuantifier, isMark, deeper, others, same, further, closing]

/-- A closing parenthesis of a group without open scopes ends those of the level that it goes back
to. -/
theorem groupFrom_close {outer : List Nat} (count : Nat) (rest : List Char)
    (below : ∀ scope ∈ outer, scope < depth) :
    groupFrom .outside (depth + 1) (List.replicate count depth ++ outer) (')' :: rest) =
      ')' :: (List.replicate count ')' ++ groupFrom .outside depth outer rest) :=
  groupFrom_closeGroup 0 count rest below

end Steps

/-- A text keeps the scopes around it open: none of them ends inside it. -/
def KeepsOpen (text image : List Char) : Prop :=
  ∀ (depth : Nat) (scopes : List Nat) (rest : List Char), (∀ scope ∈ scopes, scope < depth) →
    groupFrom .outside depth scopes (text ++ rest) =
      image ++ groupFrom .outside depth scopes rest

/-- A text ends scopes: those that began at its own level are closed behind it, and no others. -/
def EndsScopes (text image : List Char) : Prop :=
  ∀ (depth : Nat) (outer : List Nat) (count : Nat) (rest : List Char),
    (∀ scope ∈ outer, scope < depth) →
    groupFrom .outside depth (List.replicate count depth ++ outer) (text ++ rest) =
      image ++ (List.replicate count ')' ++ groupFrom .outside depth outer rest)

section Parts

variable {text image other otherImage : List Char}

/-- Where no scope began at its level, a text that ends scopes leaves all of them open. -/
theorem EndsScopes.keepsOpen (ends : EndsScopes text image) : KeepsOpen text image := by
  intro depth scopes rest below
  exact ends depth scopes 0 rest below

/-- Two texts one after the other keep scopes open if each does. -/
theorem KeepsOpen.append (first : KeepsOpen text image) (second : KeepsOpen other otherImage) :
    KeepsOpen (text ++ other) (image ++ otherImage) := by
  intro depth scopes rest below
  rw [List.append_assoc, first depth scopes _ below,
    second depth scopes rest below, List.append_assoc]

/-- Plain characters keep scopes open. -/
theorem keepsOpen_plain (front : List Char) (plain : front.all isPlain = true) :
    KeepsOpen front front :=
  fun _ _ rest _ => groupFrom_append front rest plain

/-- Plain characters may stand before a text that ends scopes. -/
theorem EndsScopes.behind (ends : EndsScopes text image) (front : List Char)
    (plain : front.all isPlain = true) : EndsScopes (front ++ text) (front ++ image) := by
  intro depth outer count rest below
  -- The plain characters change neither the depth nor the scopes.
  rw [List.append_assoc, groupFrom_append front _ plain, ends depth outer count rest below,
    List.append_assoc]

/-- A group ends the scopes that it is the body of, if its content leaves them open. -/
theorem KeepsOpen.group (content : KeepsOpen text image) :
    EndsScopes ('(' :: (text ++ [')'])) ('(' :: (image ++ [')'])) := by
  intro depth outer count rest below
  -- One level down, the scopes around the group began further up.
  have inner := content (depth + 1) _ (')' :: rest) (below_succ count below)
  rw [groupFrom_close count rest below] at inner
  simp [groupFrom_open, inner]

end Parts

/-- Names are plain. -/
theorem Variable.all_isPlain (name : Variable) : name.chars.all isPlain = true :=
  List.all_eq_true.mpr fun _ member => isPlain_of_isNameChar (Variable.isNameChar_of_mem member)

/-- Names are plain, whichever letter they start with. -/
theorem Constant.all_isPlain (name : Constant) : name.chars.all isPlain = true :=
  List.all_eq_true.mpr fun _ member => isPlain_of_isNameChar (Constant.isNameChar_of_mem member)

mutual

/-- An application ends the scopes that it is the body of. -/
theorem endsScopes_application (head : Constant) (arguments : Arguments) :
    EndsScopes ((Term.application head arguments).render .given)
      ((Term.application head arguments).render .grouped) := by
  have whole := arguments.keepsOpen.group.behind head.chars (Constant.all_isPlain head)
  simpa [Term.render, Rendering.given, Rendering.grouped] using whole

/-- Terms keep scopes open. -/
theorem Term.keepsOpen (term : Term) : KeepsOpen (term.render .given) (term.render .grouped) := by
  -- Only an application opens a group, and it closes it again.
  cases term with
  | var name => exact keepsOpen_plain name.chars (Variable.all_isPlain name)
  | constant name => exact keepsOpen_plain name.chars (Constant.all_isPlain name)
  | application head arguments => exact (endsScopes_application head arguments).keepsOpen

/-- So do arguments. -/
theorem Arguments.keepsOpen (arguments : Arguments) :
    KeepsOpen (arguments.render .given) (arguments.render .grouped) := by
  cases arguments with
  | last argument => exact argument.keepsOpen
  | more argument others =>
    have comma := keepsOpen_plain [','] (by decide)
    exact argument.keepsOpen.append (comma.append others.keepsOpen)

end

/-- A quantifier opens its group, and its variables are copied. -/
theorem groupFrom_binder (quantifier : Quantifier) (first : Variable) (others : List Variable)
    (depth : Nat) (scopes : List Nat) (rest : List Char) :
    groupFrom .outside depth scopes (renderBinder .given quantifier first others ++ rest) =
      renderBinder .grouped quantifier first others ++
        groupFrom .outside depth (depth :: scopes) rest := by
  have comma : isPlain ',' = true := rfl
  have later : (others.flatMap fun name => ',' :: name.chars).all isPlain = true := by
    simp [List.all_flatMap, Variable.all_isPlain, comma]
  have plain : (first.chars ++ (others.flatMap fun name => ',' :: name.chars) ++
      [']', ':']).all isPlain = true := by
    rw [List.all_append, List.all_append, Variable.all_isPlain first, later]
    decide
  -- Between the brackets and behind them all characters are plain.
  have opened := groupFrom_quantifier quantifier depth scopes
    (first.chars ++ (others.flatMap fun name => ',' :: name.chars) ++ [']', ':'] ++ rest)
  rw [groupFrom_append _ rest plain] at opened
  simpa [renderBinder, Rendering.given, Rendering.grouped] using opened

/-- A quantifier with its scope ends the scopes around it together with its own. -/
theorem EndsScopes.quantified {scope scopeImage : List Char} (ends : EndsScopes scope scopeImage)
    (quantifier : Quantifier) (first : Variable) (others : List Variable) :
    EndsScopes (renderBinder .given quantifier first others ++ (scope ++ []))
      (renderBinder .grouped quantifier first others ++ (scopeImage ++ [')'])) := by
  intro depth outer count rest below
  have opened := groupFrom_binder quantifier first others depth
    (List.replicate count depth ++ outer) (scope ++ rest)
  -- The inner scope is one more of those that end here, and the first of them.
  have inner := ends depth outer (count + 1) rest below
  rw [List.replicate_succ, List.cons_append, List.replicate_succ] at inner
  rw [inner] at opened
  simpa using opened

/-- A connective keeps scopes open between two formulas that do. -/
theorem KeepsOpen.sides {left leftImage right rightImage : List Char}
    (first : KeepsOpen left leftImage) (second : KeepsOpen right rightImage)
    (connective : Connective) :
    KeepsOpen (left ++ (Rendering.given.connective connective ++ right))
      (leftImage ++ (Rendering.grouped.connective connective ++ rightImage)) := by
  have sign := keepsOpen_plain (Rendering.given.connective connective)
    (by cases connective <;> decide)
  exact first.append (sign.append second)

mutual

/-- A formula gets its quantifiers grouped, and no scope ends inside it that began outside. -/
theorem Sentence.keepsOpen (formula : Sentence) :
    KeepsOpen (formula.render .given) (formula.render .grouped) := by
  -- A scope can end inside the formula only if it begins there too.
  cases formula with
  | constant name => exact keepsOpen_plain name.chars (Constant.all_isPlain name)
  | application head arguments => exact (endsScopes_application head arguments).keepsOpen
  | equation left right =>
    exact left.keepsOpen.append ((keepsOpen_plain ['='] (by decide)).append right.keepsOpen)
  | inequation left right =>
    have sign : KeepsOpen ['!', '='] ['!', '='] := fun _ _ rest _ => groupFrom_unequal rest
    exact left.keepsOpen.append (sign.append right.keepsOpen)
  | verum => exact keepsOpen_plain "$true".toList (by decide)
  | falsum => exact keepsOpen_plain "$false".toList (by decide)
  -- A formula in front of others, in a group or in a scope is kept open by the same theorem.
  | negation formula => exact (keepsOpen_plain ['~'] (by decide)).append formula.keepsOpen
  | group formula => exact formula.keepsOpen.group.keepsOpen
  | binary left connective right =>
    have whole := (left.keepsOpen.sides right.keepsOpen connective).group.keepsOpen
    simpa only [Sentence.render, List.append_assoc] using whole
  | quantified quantifier first others scope =>
    exact (scope.endsScopes.quantified quantifier first others).keepsOpen

/-- A scope gets its quantifiers grouped, and ends the scopes that it is the body of. -/
theorem Scope.endsScopes (scope : Scope) :
    EndsScopes (scope.render .given) (scope.render .grouped) := by
  -- Every scope ends in a parenthesis, perhaps that of a scope inside it.
  cases scope with
  | group formula => exact formula.keepsOpen.group
  | binary left connective right =>
    have whole := (left.keepsOpen.sides right.keepsOpen connective).group
    simpa only [Scope.render, List.append_assoc] using whole
  | application head arguments => exact endsScopes_application head arguments
  | negation scope => exact scope.endsScopes.behind ['~'] (by decide)
  | quantified quantifier first others scope =>
    exact scope.endsScopes.quantified quantifier first others

end

/-- The first pass groups the quantifiers of a formula. -/
theorem Sentence.groupQuantifiers_render (formula : Sentence) :
    groupQuantifiers (formula.render .given) = formula.render .grouped := by
  -- Outside the formula no scope is open.
  have whole : groupFrom .outside 0 [] (formula.render .given ++ []) =
      formula.render .grouped ++ groupFrom .outside 0 [] [] :=
    formula.keepsOpen 0 [] [] (by simp)
  simpa [groupQuantifiers, groupFrom, closing] using whole

end Retrace.Formula
