import Retrace.Proofs.Formula.Scope

/-!
Formulas of first-order TPTP: units with connectives between them, where a quantifier ranges over
one unit. What the first pass writes for them is told unit by unit, from the number of scopes that
are open before each.
-/

namespace Retrace.Formula

/-- A connective between two formulas of a trace. -/
inductive Junctor where
  | basic (connective : Connective)
  | impliedBy
  | xor
  | nor
  | nand
  deriving DecidableEq, Repr

/-- The characters of a connective. -/
def Junctor.chars : Junctor → List Char
  | basic connective => Rendering.given.connective connective
  | impliedBy => ['<', '=']
  | xor => ['<', '~', '>']
  | nor => ['~', '|']
  | nand => ['~', '&']

mutual

/-- A unit: an atom, two terms that are said to be equal or not, a negated unit, a formula between
parentheses, or a quantifier with the unit that it ranges over. -/
inductive Unitary where
  | truth (value : Bool)
  | constant (name : Constant)
  | application (head : Constant) (arguments : Arguments)
  | comparison (left : Term) (equal : Bool) (right : Term)
  | negation (unit : Unitary)
  | group (formula : Junction)
  | quantified (quantifier : Quantifier) (first : Variable) (others : List Variable)
    (body : Unitary)

/-- A formula: one unit or more, with connectives between them. -/
inductive Junction where
  | single (unit : Unitary)
  | binary (left : Unitary) (junctor : Junctor) (right : Junction)

end

section Renderings

variable (rendering : Rendering)

/-- The sign between two terms that are compared. -/
def Rendering.sign (equal : Bool) : List Char :=
  if equal then ['='] else rendering.unequal

mutual

/-- The text of a unit. -/
def Unitary.render : Unitary → List Char
  | .truth value => if value then rendering.verum else rendering.falsum
  | .constant name => name.chars
  | .application head arguments => (Term.application head arguments).render rendering
  | .comparison left equal right =>
    left.render rendering ++ (rendering.sign equal ++ right.render rendering)
  | .negation unit => '~' :: unit.render
  | .group formula => '(' :: (formula.render ++ [')'])
  | .quantified quantifier first others body =>
    renderBinder rendering quantifier first others ++ (body.render ++ rendering.afterScope)

/-- The text of a formula. -/
def Junction.render : Junction → List Char
  | .single unit => unit.render
  | .binary left junctor right => left.render ++ (junctor.chars ++ right.render)

end

end Renderings

/-- Whether a term ends in the parenthesis of its arguments. -/
def Term.isApplication : Term → Bool
  | .application .. => true
  | _ => false

/-- How many scopes are open behind a term, from the number of those that are open before it and
began at its level. -/
def Term.openBehind (count : Nat) (term : Term) : Nat :=
  if term.isApplication then 0 else count

/-- What is written for a term that has open scopes at its level. -/
def Term.written (count : Nat) (term : Term) : List Char :=
  term.render .given ++ List.replicate (if term.isApplication then count else 0) ')'

mutual

/-- How many scopes are open behind a unit, from the number of those before it. -/
def Unitary.openBehind (count : Nat) : Unitary → Nat
  | .truth _ | .constant _ => count
  | .application .. | .group _ => 0
  | .comparison left _ right => right.openBehind (left.openBehind count)
  | .negation unit => unit.openBehind count
  -- The scope of the quantifier is one more.
  | .quantified _ _ _ body => body.openBehind (count + 1)

/-- How many scopes are open behind a formula. -/
def Junction.openBehind (count : Nat) : Junction → Nat
  | .single unit => unit.openBehind count
  | .binary left _ right => right.openBehind (left.openBehind count)

end

mutual

/-- What is written for a unit that has open scopes at its level. -/
def Unitary.written (count : Nat) : Unitary → List Char
  | .truth value => (Unitary.truth value).render .grouped
  | .constant name => name.chars
  | .application head arguments => (Term.application head arguments).written count
  | .comparison left equal right =>
    left.written count ++ (Rendering.grouped.sign equal ++ right.written (left.openBehind count))
  | .negation unit => '~' :: unit.written count
  -- The scopes of the group are closed inside it, those that it is the body of behind it.
  | .group formula =>
    '(' :: (formula.written 0 ++ (List.replicate (formula.openBehind 0) ')' ++
      ')' :: List.replicate count ')'))
  | .quantified quantifier first others body =>
    renderBinder .grouped quantifier first others ++ body.written (count + 1)

/-- What is written for a formula that has open scopes at its level. -/
def Junction.written (count : Nat) : Junction → List Char
  | .single unit => unit.written count
  | .binary left junctor right =>
    left.written count ++ (junctor.chars ++ right.written (left.openBehind count))

end

/-- What is written for a formula and behind it, where the text or its group ends. -/
def Junction.completed (formula : Junction) : List Char :=
  formula.written 0 ++ List.replicate (formula.openBehind 0) ')'

/-- A text passes on the scopes at its level: told from their number, `image` is what is written for
the text and `after` how many of them are open behind it. -/
def PassesScopes (text : List Char) (image : Nat → List Char) (after : Nat → Nat) : Prop :=
  ∀ (depth : Nat) (outer : List Nat) (count : Nat) (rest : List Char),
    (∀ scope ∈ outer, scope < depth) →
    groupFrom .outside depth (List.replicate count depth ++ outer) (text ++ rest) =
      image count ++ groupFrom .outside depth (List.replicate (after count) depth ++ outer) rest

section Passing

variable {text other : List Char} {image otherImage : Nat → List Char} {after otherAfter : Nat → Nat}

/-- Plain characters close no scope. -/
theorem passesScopes_plain (front : List Char) (plain : front.all isPlain = true) :
    PassesScopes front (fun _ => front) fun count => count :=
  fun _ _ _ rest _ => groupFrom_append front rest plain

/-- A text that ends scopes passes none on. -/
theorem EndsScopes.passesScopes {written : List Char} (ends : EndsScopes text written) :
    PassesScopes text (fun count => written ++ List.replicate count ')') fun _ => 0 := by
  intro depth outer count rest below
  rw [ends depth outer count rest below, List.append_assoc, List.replicate_zero, List.nil_append]

/-- The scopes that one text passes on are those that the next one begins with. -/
theorem PassesScopes.append (first : PassesScopes text image after)
    (second : PassesScopes other otherImage otherAfter) :
    PassesScopes (text ++ other) (fun count => image count ++ otherImage (after count))
      fun count => otherAfter (after count) := by
  intro depth outer count rest below
  -- Between the texts the depth is the same, and only the number of scopes may have changed.
  rw [List.append_assoc, first depth outer count _ below, second depth outer _ rest below,
    List.append_assoc]

/-- A group closes the scopes that its content passes on, and those that it is the body of. -/
theorem PassesScopes.group (content : PassesScopes text image after) :
    PassesScopes ('(' :: (text ++ [')']))
      (fun count => '(' :: (image 0 ++ (List.replicate (after 0) ')' ++
        ')' :: List.replicate count ')'))) fun _ => 0 := by
  intro depth outer count rest below
  -- One level down no scope has begun yet.
  have inner := content (depth + 1) (List.replicate count depth ++ outer) 0 (')' :: rest)
    (below_succ count below)
  rw [groupFrom_closeGroup (after 0) count rest below] at inner
  simpa [groupFrom_open] using inner

/-- A quantifier begins one more scope at the level of its body. -/
theorem PassesScopes.quantified (body : PassesScopes text image after) (quantifier : Quantifier)
    (first : Variable) (others : List Variable) :
    PassesScopes (renderBinder .given quantifier first others ++ (text ++ []))
      (fun count => renderBinder .grouped quantifier first others ++ image (count + 1))
      fun count => after (count + 1) := by
  intro depth outer count rest below
  have opened := groupFrom_binder quantifier first others depth
    (List.replicate count depth ++ outer) (text ++ rest)
  -- The new scope stands on top of those at the same level.
  have inner := body depth outer (count + 1) rest below
  rw [List.replicate_succ, List.cons_append] at inner
  rw [inner] at opened
  simpa using opened

end Passing

/-- Terms are written in the same way, whether quantifiers are grouped or not. -/
theorem Term.render_grouped (term : Term) : term.render .grouped = term.render .given := by
  have before : Rendering.grouped.beforeArguments = Rendering.given.beforeArguments := rfl
  have separator : Rendering.grouped.argumentSeparator = Rendering.given.argumentSeparator := rfl
  exact term.render_congr before separator

/-- Only the parenthesis behind its arguments makes a term close scopes. -/
theorem Term.passesScopes (term : Term) :
    PassesScopes (term.render .given) (term.written ·) (term.openBehind ·) := by
  -- Names are plain, and the group of the arguments comes last.
  cases term with
  | var name =>
    have plain := passesScopes_plain name.chars (Variable.all_isPlain name)
    simpa [written, openBehind, isApplication, render] using plain
  | constant name =>
    have plain := passesScopes_plain name.chars (Constant.all_isPlain name)
    simpa [written, openBehind, isApplication, render] using plain
  | application head arguments =>
    have ends := (endsScopes_application head arguments).passesScopes
    simpa [written, openBehind, isApplication, render_grouped] using ends

/-- No scope is closed at the sign between two terms. -/
theorem passesScopes_sign (equal : Bool) :
    PassesScopes (Rendering.given.sign equal) (fun _ => Rendering.grouped.sign equal)
      fun count => count := by
  -- An exclamation mark before an equals sign begins no scope either.
  cases equal with
  | true => exact passesScopes_plain ['='] (by decide)
  | false => exact fun _ _ _ rest _ => groupFrom_unequal rest

/-- No scope is closed at a connective. -/
theorem Junctor.passesScopes (junctor : Junctor) :
    PassesScopes junctor.chars (fun _ => junctor.chars) fun count => count := by
  -- The characters of connectives are plain.
  refine passesScopes_plain junctor.chars ?_
  cases junctor with
  | basic connective => cases connective <;> decide
  | _ => decide

mutual

/-- What the first pass writes for a unit is told from the scopes that are open before it. -/
theorem Unitary.passesScopes (unit : Unitary) :
    PassesScopes (unit.render .given) (unit.written ·) (unit.openBehind ·) := by
  -- Each form passes scopes from part to part, in the order in which the parts stand.
  cases unit with
  | truth value =>
    cases value with
    | true => exact passesScopes_plain "$true".toList (by decide)
    | false => exact passesScopes_plain "$false".toList (by decide)
  | constant name => exact passesScopes_plain name.chars (Constant.all_isPlain name)
  | application head arguments => exact (Term.application head arguments).passesScopes
  | comparison left equal right =>
    exact left.passesScopes.append ((passesScopes_sign equal).append right.passesScopes)
  | negation unit => exact (passesScopes_plain ['~'] (by decide)).append unit.passesScopes
  | group formula => exact formula.passesScopes.group
  | quantified quantifier first others body =>
    exact body.passesScopes.quantified quantifier first others

/-- So it is with formulas. -/
theorem Junction.passesScopes (formula : Junction) :
    PassesScopes (formula.render .given) (formula.written ·) (formula.openBehind ·) := by
  cases formula with
  | single unit => exact unit.passesScopes
  | binary left junctor right =>
    exact left.passesScopes.append (junctor.passesScopes.append right.passesScopes)

end

/-- The first pass completes a formula by closing the scopes that are still open at its end. -/
theorem Junction.groupQuantifiers_render (formula : Junction) :
    groupQuantifiers (formula.render .given) = formula.completed := by
  -- Outside the formula no scope is open.
  have whole := formula.passesScopes 0 [] 0 [] (by simp)
  simpa [groupQuantifiers, groupFrom, closing, completed] using whole

end Retrace.Formula
