import Retrace.Proofs.Formula.Grammar

/-!
Passes over the text of a formula. A pass that turns the small parts of every formula from one
rendering into another turns the formulas themselves.
-/

namespace Retrace.Formula

/-- Symbols end before a text if it starts neither with a symbol character nor with arguments. -/
def EndsSymbol (rest : List Char) : Prop :=
  ∀ c ∈ rest.head?, isSymbolChar c = false ∧ c ≠ '('

/-- Symbols end with the text. -/
theorem endsSymbol_nil : EndsSymbol [] := by
  intro c member
  cases member

/-- Symbols end before any other character than an opening parenthesis. -/
theorem endsSymbol_cons {c : Char} {rest : List Char} (other : isSymbolChar c = false ∧ c ≠ '(') :
    EndsSymbol (c :: rest) := by
  intro d member
  obtain rfl : c = d := by simpa using member
  exact other

section Turns

variable {pass : List Char → List Char}

/-- A pass turns a text into an image if it does so whatever follows. -/
def Turns (pass : List Char → List Char) (text image : List Char) : Prop :=
  ∀ rest, pass (text ++ rest) = image ++ pass rest

/-- A pass turns a text into an image if it does so where the symbols of the text end with it. -/
def TurnsSymbols (pass : List Char → List Char) (text image : List Char) : Prop :=
  ∀ rest, EndsSymbol rest → pass (text ++ rest) = image ++ pass rest

variable {text image other otherImage : List Char}

/-- What turns whatever follows also turns where symbols end. -/
theorem Turns.symbols (turns : Turns pass text image) : TurnsSymbols pass text image :=
  fun rest _ => turns rest

/-- Two parts turn one after the other. -/
theorem Turns.append (turns : Turns pass text image) (others : Turns pass other otherImage) :
    Turns pass (text ++ other) (image ++ otherImage) := by
  intro rest
  rw [List.append_assoc, turns, others, List.append_assoc]

/-- Parts that turn whatever follows turn in a row. -/
theorem Turns.flatMap {α : Type} (items : List α) {texts images : α → List Char}
    (turns : ∀ item, Turns pass (texts item) (images item)) :
    Turns pass (items.flatMap texts) (items.flatMap images) := by
  -- Each item turns whatever the others turn into.
  induction items with
  | nil => exact fun _ => rfl
  | cons item items ih => exact (turns item).append ih

/-- A part that turns whatever follows may stand before any other. -/
theorem Turns.before (turns : Turns pass text image) (others : TurnsSymbols pass other otherImage) :
    TurnsSymbols pass (text ++ other) (image ++ otherImage) := by
  intro rest ends
  rw [List.append_assoc, turns, others rest ends, List.append_assoc]

/-- Behind a part whose symbols have to end stands one that begins with none. -/
theorem TurnsSymbols.before (turns : TurnsSymbols pass text image)
    (others : TurnsSymbols pass other otherImage) (ends : ∀ rest, EndsSymbol (other ++ rest)) :
    TurnsSymbols pass (text ++ other) (image ++ otherImage) := by
  intro rest symbols
  rw [List.append_assoc, turns _ (ends rest), others rest symbols, List.append_assoc]

/-- Where such a part turns whatever follows, so do the two together. -/
theorem TurnsSymbols.closed (turns : TurnsSymbols pass text image)
    (others : Turns pass other otherImage) (ends : ∀ rest, EndsSymbol (other ++ rest)) :
    Turns pass (text ++ other) (image ++ otherImage) := by
  intro rest
  rw [List.append_assoc, turns _ (ends rest), others, List.append_assoc]

end Turns

/-- What a pass does to the parts of formulas. Both renderings close the group of a quantifier. -/
structure Pass (pass : List Char → List Char) (source target : Rendering) : Prop where
  nothing : pass [] = []
  term (term : Term) : TurnsSymbols pass (term.render source) (term.render target)
  equals (right : Term) :
    TurnsSymbols pass ('=' :: right.render source) ('=' :: right.render target)
  unequal : Turns pass source.unequal target.unequal
  verum : TurnsSymbols pass source.verum target.verum
  falsum : TurnsSymbols pass source.falsum target.falsum
  connective (connective : Connective) :
    Turns pass (source.connective connective) (target.connective connective)
  binder (quantifier : Quantifier) (first : Variable) (others : List Variable) :
    Turns pass (renderBinder source quantifier first others)
      (renderBinder target quantifier first others)
  opening : Turns pass ['('] ['(']
  closing : Turns pass [')'] [')']
  negation : Turns pass ['~'] ['~']
  grouped : source.afterScope = [')'] ∧ target.afterScope = [')']
  endsAtUnequal (rest : List Char) : EndsSymbol (source.unequal ++ rest)
  endsAtConnective (connective : Connective) (rest : List Char) :
    EndsSymbol (source.connective connective ++ rest)

namespace Pass

variable {pass : List Char → List Char} {source target : Rendering}

/-- A closing parenthesis ends all symbols before it. -/
theorem endsSymbol_close (rest : List Char) : EndsSymbol ([')'] ++ rest) :=
  endsSymbol_cons (by decide)

/-- A group turns with what it encloses. -/
theorem group (passes : Pass pass source target) {text image : List Char}
    (turns : TurnsSymbols pass text image) :
    Turns pass ('(' :: (text ++ [')'])) ('(' :: (image ++ [')'])) :=
  passes.opening.append (turns.closed passes.closing endsSymbol_close)

/-- A connective turns with the formulas on its two sides. -/
theorem sides (passes : Pass pass source target) (connective : Connective)
    {left leftImage right rightImage : List Char} (first : TurnsSymbols pass left leftImage)
    (second : TurnsSymbols pass right rightImage) :
    TurnsSymbols pass (left ++ (source.connective connective ++ right))
      (leftImage ++ (target.connective connective ++ rightImage)) := by
  -- The formula on the left ends where the connective begins.
  refine first.before ((passes.connective connective).before second) fun rest => ?_
  rw [List.append_assoc]
  exact passes.endsAtConnective connective _

/-- A quantifier turns with its scope. -/
theorem quantified (passes : Pass pass source target) (quantifier : Quantifier) (first : Variable)
    (others : List Variable) {scope scopeImage : List Char}
    (turns : TurnsSymbols pass scope scopeImage) :
    Turns pass (renderBinder source quantifier first others ++ (scope ++ source.afterScope))
      (renderBinder target quantifier first others ++ (scopeImage ++ target.afterScope)) := by
  -- Both renderings close the group of the quantifier with a parenthesis.
  obtain ⟨sourceCloses, targetCloses⟩ := passes.grouped
  rw [sourceCloses, targetCloses]
  exact (passes.binder quantifier first others).append
    (turns.closed passes.closing endsSymbol_close)

end Pass

section Formulas

variable {pass : List Char → List Char} {source target : Rendering}

mutual

/-- A pass turns formulas if it turns their parts. -/
theorem Sentence.turns (formula : Sentence) (passes : Pass pass source target) :
    TurnsSymbols pass (formula.render source) (formula.render target) := by
  -- Each part is turned on its own, as nothing in the next one changes it.
  cases formula with
  | constant name =>
    have turns := passes.term (.constant name)
    rwa [Term.render, Term.render] at turns
  | application head arguments => exact passes.term (.application head arguments)
  | equation left right =>
    exact (passes.term left).before (passes.equals right) fun _ => endsSymbol_cons (by decide)
  | inequation left right =>
    refine (passes.term left).before (passes.unequal.before (passes.term right)) fun rest => ?_
    rw [List.append_assoc]
    exact passes.endsAtUnequal _
  | verum => exact passes.verum
  | falsum => exact passes.falsum
  -- The other forms hold formulas, which are turned by the same theorem.
  | negation formula => exact passes.negation.before (formula.turns passes)
  | group formula => exact (passes.group (formula.turns passes)).symbols
  | binary left connective right =>
    have inner := passes.sides connective (left.turns passes) (right.turns passes)
    have whole := (passes.group inner).symbols
    simpa only [Sentence.render, List.append_assoc] using whole
  | quantified quantifier first others scope =>
    exact (passes.quantified quantifier first others (scope.turns passes)).symbols

/-- So it turns scopes. -/
theorem Scope.turns (scope : Scope) (passes : Pass pass source target) :
    TurnsSymbols pass (scope.render source) (scope.render target) := by
  -- Scopes consist of the same parts as formulas.
  cases scope with
  | group formula => exact (passes.group (formula.turns passes)).symbols
  | binary left connective right =>
    have inner := passes.sides connective (left.turns passes) (right.turns passes)
    have whole := (passes.group inner).symbols
    simpa only [Scope.render, List.append_assoc] using whole
  | application head arguments => exact passes.term (.application head arguments)
  | negation scope => exact passes.negation.before (scope.turns passes)
  | quantified quantifier first others scope =>
    exact (passes.quantified quantifier first others (scope.turns passes)).symbols

end

/-- A pass turns the formula that makes up a whole text. -/
theorem Sentence.pass_render (formula : Sentence) (passes : Pass pass source target) :
    pass (formula.render source) = formula.render target := by
  -- Nothing follows, so that no symbol goes on behind the formula.
  have whole := formula.turns passes [] endsSymbol_nil
  rwa [List.append_nil, passes.nothing, List.append_nil] at whole

end Formulas

end Retrace.Formula
