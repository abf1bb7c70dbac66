import Retrace.Formula

/-!
The formulas that provers write, as trees, and the ways in which a tree is rendered as a text: as
the trace has it, in HOL notation, and after each pass between the two.
-/

namespace Retrace.Formula

/-- A name goes on with ASCII letters, digits and underscores. -/
def isNameChar (c : Char) : Bool :=
  c.isAlphanum || c == '_'

/-- A name character is a capital letter, a small letter, a digit or an underscore. -/
theorem isNameChar_iff {c : Char} : isNameChar c = true ↔
    ((c.isUpper = true ∨ c.isLower = true) ∨ c.isDigit = true) ∨ c = '_' := by
  have spelled : isNameChar c = (((c.isUpper || c.isLower) || c.isDigit) || c == '_') := rfl
  rw [spelled, Bool.or_eq_true, Bool.or_eq_true, Bool.or_eq_true, beq_iff_eq]

/-- A name, told apart by the letters that it may start with. -/
structure Name (starts : Char → Bool) where
  first : Char
  others : List Char
  begins : starts first = true
  goesOn : ∀ c ∈ others, isNameChar c = true

/-- The characters of a name. -/
def Name.chars {starts : Char → Bool} (name : Name starts) : List Char :=
  name.first :: name.others

/-- Variables start with a capital letter. -/
abbrev Variable : Type :=
  Name Char.isUpper

/-- Constants, functions and predicates start with a small letter. -/
abbrev Constant : Type :=
  Name Char.isLower

/-- All characters of a name may stand inside a name if the first one may. -/
theorem Name.isNameChar_of_mem {starts : Char → Bool} {name : Name starts}
    (first : isNameChar name.first = true) {c : Char} (member : c ∈ name.chars) :
    isNameChar c = true := by
  rcases List.mem_cons.mp member with rfl | later
  · exact first
  · exact name.goesOn c later

/-- All characters of a variable may stand inside a name. -/
theorem Variable.isNameChar_of_mem {name : Variable} {c : Char} (member : c ∈ name.chars) :
    isNameChar c = true :=
  Name.isNameChar_of_mem (isNameChar_iff.mpr (.inl (.inl (.inl name.begins)))) member

/-- All characters of a constant may stand inside a name. -/
theorem Constant.isNameChar_of_mem {name : Constant} {c : Char} (member : c ∈ name.chars) :
    isNameChar c = true :=
  Name.isNameChar_of_mem (isNameChar_iff.mpr (.inl (.inl (.inr name.begins)))) member

/-- A character that may stand inside a name is none that may not. -/
theorem ne_of_isNameChar {c d : Char} (inside : isNameChar c = true)
    (outside : isNameChar d = false) : c ≠ d := by
  rintro rfl
  rw [inside] at outside
  cases outside

/-- So it is none of several that may not. -/
theorem forall_ne_of_isNameChar {c : Char} {outside : List Char} (inside : isNameChar c = true)
    (table : outside.all (! isNameChar ·) = true) : ∀ d ∈ outside, c ≠ d := by
  intro d member
  have held := List.all_eq_true.mp table d member
  exact ne_of_isNameChar inside (by simpa using held)

/-- No character of a name is a blank. -/
theorem isBlank_of_isNameChar {c : Char} (inside : isNameChar c = true) :
    Text.isBlank c = false := by
  -- All name characters lie between the digit 0 and the small letter z, where no blank is.
  have range : 48 ≤ c.toNat ∧ c.toNat ≤ 122 := by
    rcases isNameChar_iff.mp inside with ((upper | lower) | digit) | rfl
    · have bounds : 65 ≤ c.toNat ∧ c.toNat ≤ 90 := of_decide_eq_true upper
      omega
    · obtain ⟨least, greatest⟩ := Bool.and_eq_true_iff.mp lower
      have bounds : 97 ≤ c.toNat ∧ c.toNat ≤ 122 :=
        ⟨of_decide_eq_true least, of_decide_eq_true greatest⟩
      omega
    · obtain ⟨least, greatest⟩ := Bool.and_eq_true_iff.mp digit
      have bounds : 48 ≤ c.toNat ∧ c.toNat ≤ 57 :=
        ⟨of_decide_eq_true least, of_decide_eq_true greatest⟩
      omega
    · decide
  -- The blanks are all below or above this range.
  simp only [Text.isBlank, Bool.or_eq_false_iff, Bool.and_eq_false_iff, decide_eq_false_iff_not,
    beq_eq_false_iff_ne]
  omega

mutual

/-- A term. -/
inductive Term where
  | var (name : Variable)
  | constant (name : Constant)
  | application (head : Constant) (arguments : Arguments)

/-- One argument or more. -/
inductive Arguments where
  | last (argument : Term)
  | more (argument : Term) (others : Arguments)

end

/-- A connective of two formulas. -/
inductive Connective where
  | or
  | and
  | implies
  | iff
  deriving DecidableEq, Repr

/-- A quantifier. -/
inductive Quantifier where
  | all
  | exist
  deriving DecidableEq, Repr

/-- The mark of a quantifier, in a trace and in HOL. -/
def Quantifier.mark : Quantifier → Char
  | all => '!'
  | exist => '?'

mutual

/-- A formula. -/
inductive Sentence where
  | constant (name : Constant)
  | application (head : Constant) (arguments : Arguments)
  | equation (left right : Term)
  | inequation (left right : Term)
  | verum
  | falsum
  | negation (formula : Sentence)
  | group (formula : Sentence)
  | binary (left : Sentence) (connective : Connective) (right : Sentence)
  | quantified (quantifier : Quantifier) (first : Variable) (others : List Variable)
    (scope : Scope)

/-- What a quantifier ranges over. Unlike a formula it shows by itself where it ends. -/
inductive Scope where
  | group (formula : Sentence)
  | binary (left : Sentence) (connective : Connective) (right : Sentence)
  | application (head : Constant) (arguments : Arguments)
  | negation (scope : Scope)
  | quantified (quantifier : Quantifier) (first : Variable) (others : List Variable)
    (scope : Scope)

end

/-- What a way of rendering is free to choose. -/
structure Rendering where
  /-- What stands before the first argument of an application, its head included. -/
  beforeArguments (head : List Char) : List Char
  argumentSeparator : Char
  /-- What stands before the first variable of a quantifier. -/
  beforeVariables (mark : Char) : List Char
  variableSeparator : Char
  /-- What stands between the last variable and the scope. -/
  beforeScope : List Char
  /-- What stands behind the scope. -/
  afterScope : List Char
  unequal : List Char
  verum : List Char
  falsum : List Char
  connective : Connective → List Char

namespace Rendering

/-- Formulas as a trace has them: `f(X,a)` and `![X,Y]:p`. -/
def given : Rendering where
  beforeArguments head := head ++ ['(']
  argumentSeparator := ','
  beforeVariables mark := [mark, '[']
  variableSeparator := ','
  beforeScope := [']', ':']
  afterScope := []
  unequal := ['!', '=']
  verum := "$true".toList
  falsum := "$false".toList
  connective
    | .or => ['|']
    | .and => ['&']
    | .implies => ['=', '>']
    | .iff => ['<', '=', '>']

/-- Quantifiers grouped: `(![X,Y]:p)`. -/
def grouped : Rendering :=
  { given with beforeVariables := fun mark => ['(', mark, '['], afterScope := [')'] }

/-- Applications curried as well: `(f X a)`. -/
def curried : Rendering :=
  { grouped with beforeArguments := fun head => '(' :: head ++ [' '], argumentSeparator := ' ' }

/-- Variables parted by spaces as well: `(![X Y]:p)`. -/
def spaced : Rendering :=
  { curried with variableSeparator := ' ' }

/-- Formulas in HOL notation: `(f X a)` and `(! X Y .p)`. -/
def hol : Rendering where
  beforeArguments head := '(' :: head ++ [' ']
  argumentSeparator := ' '
  beforeVariables mark := ['(', mark, ' ']
  variableSeparator := ' '
  beforeScope := [' ', '.']
  afterScope := [')']
  unequal := ['~', '=']
  verum := "True".toList
  falsum := "False".toList
  connective
    | .or => ['|']
    | .and => ['&']
    | .implies => ['-', '-', '>']
    | .iff => ['=']

end Rendering

variable (rendering : Rendering)

mutual

/-- The text of a term. -/
def Term.render : Term → List Char
  | .var name => name.chars
  | .constant name => name.chars
  | .application head arguments =>
    rendering.beforeArguments head.chars ++ (arguments.render ++ [')'])

/-- The text of arguments. -/
def Arguments.render : Arguments → List Char
  | .last argument => argument.render
  | .more argument others => argument.render ++ rendering.argumentSeparator :: others.render

end

mutual

/-- Only what is written around arguments makes a difference to terms. -/
theorem Term.render_congr {rendering other : Rendering}
    (before : rendering.beforeArguments = other.beforeArguments)
    (separator : rendering.argumentSeparator = other.argumentSeparator) (term : Term) :
    term.render rendering = term.render other := by
  -- Names are rendered the same way everywhere.
  cases term with
  | var name => rfl
  | constant name => rfl
  | application head arguments =>
    rw [Term.render, Term.render, before, arguments.render_congr before separator]

/-- So it is with arguments. -/
theorem Arguments.render_congr {rendering other : Rendering}
    (before : rendering.beforeArguments = other.beforeArguments)
    (separator : rendering.argumentSeparator = other.argumentSeparator) (arguments : Arguments) :
    arguments.render rendering = arguments.render other := by
  cases arguments with
  | last argument => exact argument.render_congr before separator
  | more argument others =>
    rw [Arguments.render, Arguments.render, separator, argument.render_congr before separator,
      others.render_congr before separator]

end

/-- The marks that a rendering may write into a term. -/
def Rendering.termMarks : List Char :=
  ['(', ')', rendering.argumentSeparator]

/-- What a rendering writes around the head of an application is among its marks. -/
def Rendering.Tidy : Prop :=
  ∀ head, ∀ c ∈ rendering.beforeArguments head, c ∈ head ∨ c ∈ rendering.termMarks

mutual

/-- A term consists of the characters of its names and of marks. -/
theorem Term.mem_render {rendering : Rendering} (tidy : rendering.Tidy) (term : Term) {c : Char}
    (member : c ∈ term.render rendering) : isNameChar c = true ∨ c ∈ rendering.termMarks := by
  -- Around the arguments a rendering writes marks only.
  cases term with
  | var name => exact .inl (Variable.isNameChar_of_mem member)
  | constant name => exact .inl (Constant.isNameChar_of_mem member)
  | application head arguments =>
    rw [Term.render] at member
    rcases List.mem_append.mp member with before | inside
    · exact (tidy head.chars c before).imp_left Constant.isNameChar_of_mem
    rcases List.mem_append.mp inside with among | closing
    · exact arguments.mem_render tidy among
    · exact .inr (List.mem_singleton.mp closing ▸ by simp [Rendering.termMarks])

/-- So do arguments. -/
theorem Arguments.mem_render {rendering : Rendering} (tidy : rendering.Tidy)
    (arguments : Arguments) {c : Char} (member : c ∈ arguments.render rendering) :
    isNameChar c = true ∨ c ∈ rendering.termMarks := by
  cases arguments with
  | last argument => exact argument.mem_render tidy member
  | more argument others =>
    rw [Arguments.render] at member
    -- Between two arguments stands what the rendering separates them by.
    rcases List.mem_append.mp member with first | later
    · exact argument.mem_render tidy first
    rcases List.mem_cons.mp later with rfl | later
    · exact .inr (by simp [Rendering.termMarks])
    · exact others.mem_render tidy later

end

/-- A curried term consists of the characters of names, parentheses and spaces. -/
theorem Term.mem_render_curried (term : Term) {c : Char} (member : c ∈ term.render .curried) :
    isNameChar c = true ∨ c ∈ ['(', ')', ' '] := by
  -- A curried application opens before its head and has a space behind it.
  have tidy : Rendering.curried.Tidy := by
    intro head d among
    have parts : d = '(' ∨ d ∈ head ∨ d = ' ' := by
      simpa [Rendering.curried, Rendering.grouped] using among
    rcases parts with rfl | inside | rfl
    · exact .inr (by decide)
    · exact .inl inside
    · exact .inr (by decide)
  exact term.mem_render tidy member

/-- No curried term is the empty text. -/
theorem Term.render_curried_ne_nil (term : Term) : term.render .curried ≠ [] := by
  cases term <;> simp [Term.render, Rendering.curried, Name.chars]

/-- The text of a quantifier with its variables. -/
def renderBinder (quantifier : Quantifier) (first : Variable) (others : List Variable) :
    List Char :=
  rendering.beforeVariables quantifier.mark ++
    (first.chars ++ (others.flatMap fun name => rendering.variableSeparator :: name.chars) ++
      rendering.beforeScope)

mutual

/-- The text of a formula. -/
def Sentence.render : Sentence → List Char
  | .constant name => name.chars
  | .application head arguments => (Term.application head arguments).render rendering
  | .equation left right => left.render rendering ++ '=' :: right.render rendering
  | .inequation left right =>
    left.render rendering ++ (rendering.unequal ++ right.render rendering)
  | .verum => rendering.verum
  | .falsum => rendering.falsum
  | .negation formula => '~' :: formula.render
  | .group formula => '(' :: (formula.render ++ [')'])
  | .binary left connective right =>
    '(' :: (left.render ++ (rendering.connective connective ++ (right.render ++ [')'])))
  | .quantified quantifier first others scope =>
    renderBinder rendering quantifier first others ++ (scope.render ++ rendering.afterScope)

/-- The text of a scope. -/
def Scope.render : Scope → List Char
  | .group formula => '(' :: (formula.render ++ [')'])
  | .binary left connective right =>
    '(' :: (left.render ++ (rendering.connective connective ++ (right.render ++ [')'])))
  | .application head arguments => (Term.application head arguments).render rendering
  | .negation scope => '~' :: scope.render
  | .quantified quantifier first others scope =>
    renderBinder rendering quantifier first others ++ (scope.render ++ rendering.afterScope)

end

end Retrace.Formula
