import Retrace.Proofs.Formula.Nesting
import Retrace.Proofs.Formula.Parts
import Retrace.Proofs.Formula.Pass
import Retrace.Proofs.Text.Words

/-!
Currying applications, the second pass: an application is cut into its head and its arguments, and
these are rendered with spaces between them. The commas that are left over become spaces as well.
-/

namespace Retrace.Formula

/-- The texts of arguments, one by one. -/
def Arguments.texts (rendering : Rendering) : Arguments → List (List Char)
  | .last argument => [argument.render rendering]
  | .more argument others => argument.render rendering :: others.texts rendering

/-- No term is the empty text. -/
theorem Term.render_ne_nil (term : Term) : term.render .grouped ≠ [] := by
  cases term <;> simp [Term.render, Rendering.given, Rendering.grouped, Name.chars]

/-- Terms hold no blank before they are curried. -/
theorem Term.filled (term : Term) : ∀ c ∈ term.render .grouped, Text.isBlank c = false := by
  -- What is written around arguments is a parenthesis or a comma.
  have tidy : Rendering.grouped.Tidy := by
    intro head c member
    refine (List.mem_append.mp member).imp_right fun opening => ?_
    simp [Rendering.termMarks, List.mem_singleton.mp opening]
  intro c member
  rcases term.mem_render tidy member with inside | mark
  · exact isBlank_of_isNameChar inside
  · have table : Rendering.grouped.termMarks.all (! Text.isBlank ·) = true := by decide
    simpa using List.all_eq_true.mp table c mark

/-- Arguments are cut at the commas between them. -/
theorem Arguments.cutAtCommas_render (arguments : Arguments) :
    cutAtCommas {} (arguments.render .grouped) = arguments.texts .grouped := by
  -- Outside all parentheses, the commas inside a term do not count.
  have shallow : false = true → 0 < 0 := by simp
  cases arguments with
  | last argument =>
    have nothing : cutAtCommas {} [] = [[]] := rfl
    have whole := (argument.balanced false).cutAtCommas_append shallow nothing
    simpa [Arguments.render, Arguments.texts] using whole
  | more argument others =>
    have parted : cutAtCommas {} (',' :: others.render .grouped) = [] :: others.texts .grouped := by
      simp [cutAtCommas, Nesting.separates, others.cutAtCommas_render]
    have whole := (argument.balanced false).cutAtCommas_append shallow parted
    rw [List.append_nil] at whole
    exact whole

/-- Arguments are texts without blanks, and none is empty. -/
theorem Arguments.of_mem_texts (arguments : Arguments) {text : List Char}
    (member : text ∈ arguments.texts .grouped) :
    text ≠ [] ∧ ∀ c ∈ text, Text.isBlank c = false := by
  -- Each text is that of a term.
  cases arguments with
  | last argument =>
    obtain rfl := List.mem_singleton.mp member
    exact ⟨argument.render_ne_nil, argument.filled⟩
  | more argument others =>
    rcases List.mem_cons.mp member with rfl | later
    · exact ⟨argument.render_ne_nil, argument.filled⟩
    · exact others.of_mem_texts later

/-- What is read between the parentheses of an application are the texts of its arguments. -/
theorem Arguments.argumentsOf_render (arguments : Arguments) :
    argumentsOf (arguments.render .grouped) = arguments.texts .grouped := by
  -- There is nothing to trim and nothing to leave out.
  have trimmed : (arguments.texts .grouped).map Text.trim = (arguments.texts .grouped).map id :=
    List.map_congr_left fun text member => Text.trim_eq_self (arguments.of_mem_texts member).2
  rw [argumentsOf, arguments.cutAtCommas_render, trimmed, List.map_id]
  refine List.filter_eq_self.mpr fun text member => ?_
  simpa using (arguments.of_mem_texts member).1

/-- An application is read from the text that it starts. -/
theorem application?_render (head : Constant) (arguments : Arguments) (rest : List Char) :
    application? (head.chars ++ '(' :: (arguments.render .grouped ++ ')' :: rest)) =
      some ⟨head.chars, arguments.texts .grouped, rest⟩ := by
  have applied : IsHead head.chars :=
    ⟨⟨head.first, rfl, head.begins⟩, fun c member =>
      isSymbolChar_of_isNameChar (Constant.isNameChar_of_mem member)⟩
  -- The group ends at the parenthesis behind the arguments.
  have grouped : splitGroup none 0 (arguments.render .grouped ++ ')' :: rest) =
      some (arguments.render .grouped, rest) := by
    have closed : splitGroup none 0 (')' :: rest) = some ([], rest) := rfl
    have whole := arguments.balanced.splitGroup_append closed
    rwa [List.append_nil] at whole
  rw [application?_of_isHead applied grouped, arguments.argumentsOf_render]

section Steps

/-- Nothing is applied where the symbols that a text starts with end. -/
theorem application?_symbols {front rest : List Char}
    (symbol : ∀ c ∈ front, isSymbolChar c = true) (ends : EndsSymbol rest) :
    application? (front ++ rest) = none := by
  -- Behind its symbols the text goes on with something else than arguments.
  have dropped : (front ++ rest).dropWhile isSymbolChar = rest := by
    rw [List.dropWhile_append_of_pos symbol]
    cases rest with
    | nil => rfl
    | cons c rest => exact List.dropWhile_cons_of_neg (by simp [(ends c rfl).1])
  unfold application?
  rw [dropped]
  -- Wherever the text ends or goes on, no parenthesis follows the symbols.
  split
  · split
    · split
      · exact absurd rfl (ends '(' rfl).2
      · rfl
    · rfl
  · rfl

/-- A character is copied where no application starts. -/
theorem curryFrom_copy {c : Char} {inSymbol : Bool} {rest : List Char} (unquoted : isMark c = false)
    (unapplied : inSymbol = true ∨ application? (c :: rest) = none) :
    curryFrom .outside inSymbol (c :: rest) =
      c :: curryFrom .outside (isSymbolChar c) rest := by
  rw [curryFrom]
  rw [if_neg (by simp [unquoted])]
  -- Nothing is found inside a symbol, whatever follows it.
  split
  · rename_i application found
    rcases unapplied with inside | none
    · simp [inside] at found
    · simp [none] at found
  · rfl

/-- An application is curried where a symbol starts. -/
theorem curryFrom_application {text : List Char} {found : Application}
    (starts : application? text = some found) :
    curryFrom .outside false text =
      '(' :: found.head ++
        (found.arguments.flatMap fun argument => ' ' :: curryFrom .outside false argument) ++
        ')' :: curryFrom .outside false found.rest := by
  cases text with
  | nil => cases starts
  | cons c rest =>
    -- An application starts with a small letter, which is no quotation mark.
    have unquoted : isMark c = false := by
      refine isMark_of_isSymbolChar ?_
      cases small : c.isLower with
      | false => simp [application?, small] at starts
      | true => exact isSymbolChar_of_isLower small
    rw [curryFrom, if_neg (by simp [unquoted])]
    -- The recursion finds the same application, with its arguments attached.
    split
    · rename_i application again
      obtain rfl : application = found := by simpa [starts, eq_comm] using again
      simp
    · rename_i none
      simp [starts] at none

/-- A character that belongs to no symbol is copied, and a symbol may start behind it. -/
theorem curryFrom_cons {c : Char} (inSymbol : Bool) (rest : List Char)
    (other : isSymbolChar c = false) :
    curryFrom .outside inSymbol (c :: rest) =
      c :: curryFrom ((Quoting.outside).next c) false rest := by
  -- An application would start with a symbol character.
  have unapplied : application? (c :: rest) = none := by
    cases small : c.isLower with
    | false => simp [application?, small]
    | true =>
      rw [isSymbolChar_of_isLower small] at other
      cases other
  cases mark : isMark c with
  | false => rw [curryFrom_copy mark (.inr unapplied), other]; simp [Quoting.next, mark]
  | true => rw [curryFrom, if_pos (by simp [mark])]

/-- Symbol characters inside a symbol are copied. -/
theorem curryFrom_inSymbol {front rest : List Char} (symbol : ∀ c ∈ front, isSymbolChar c = true)
    (ends : EndsSymbol rest) :
    curryFrom .outside true (front ++ rest) = front ++ curryFrom .outside false rest := by
  induction front with
  | nil =>
    -- Where symbols end it does not matter whether one was being read.
    cases rest with
    | nil => rw [List.nil_append, curryFrom, curryFrom]; rfl
    | cons c rest =>
      have other := (ends c rfl).1
      rw [List.nil_append, curryFrom_cons true rest other, curryFrom_cons false rest other]
      rfl
  | cons c front ih =>
    -- A symbol character is copied, and what follows is still part of the symbol.
    have first := symbol c List.mem_cons_self
    have others := ih fun d member => symbol d (List.mem_cons_of_mem _ member)
    rw [List.cons_append, curryFrom_copy (isMark_of_isSymbolChar first) (.inl rfl), first, others]
    rfl

/-- A symbol that is not applied is copied. -/
theorem curryFrom_symbol (front : List Char) (whole : front.all isSymbolChar = true) :
    TurnsSymbols (curryFrom .outside false) front front := by
  have symbol := List.all_eq_true.mp whole
  intro rest ends
  have unapplied := application?_symbols symbol ends
  cases front with
  | nil => rfl
  | cons c front =>
    -- Behind its first character the symbol has started, and nothing can be applied before it ends.
    have first := symbol c List.mem_cons_self
    have later : ∀ d ∈ front, isSymbolChar d = true := fun d member =>
      symbol d (List.mem_cons_of_mem _ member)
    have others := curryFrom_inSymbol later ends
    rw [List.cons_append] at unapplied ⊢
    rw [curryFrom_copy (isMark_of_isSymbolChar first) (.inr unapplied), first, others]
    rfl

/-- Characters that neither belong to symbols nor quote are copied. -/
theorem curryFrom_marks (front : List Char)
    (others : front.all (fun c => ! isSymbolChar c && ! isMark c) = true) :
    Turns (curryFrom .outside false) front front := by
  intro rest
  induction front with
  | nil => rfl
  | cons c front ih =>
    -- Behind each of the characters a symbol may start, as before it.
    obtain ⟨first, later⟩ := Bool.and_eq_true_iff.mp others
    obtain ⟨other, unquoted⟩ : isSymbolChar c = false ∧ isMark c = false := by simpa using first
    rw [List.cons_append, curryFrom_cons false _ other, Quoting.next, unquoted]
    simpa using ih later

/-- Variables are copied. -/
theorem curryFrom_variable (name : Variable) :
    TurnsSymbols (curryFrom .outside false) name.chars name.chars :=
  curryFrom_symbol _ (List.all_eq_true.mpr fun _ member =>
    isSymbolChar_of_isNameChar (Variable.isNameChar_of_mem member))

/-- Constants are copied. -/
theorem curryFrom_constant (name : Constant) :
    TurnsSymbols (curryFrom .outside false) name.chars name.chars :=
  curryFrom_symbol _ (List.all_eq_true.mpr fun _ member =>
    isSymbolChar_of_isNameChar (Constant.isNameChar_of_mem member))

end Steps

mutual

/-- Terms are curried. -/
theorem Term.curryFrom_render (term : Term) :
    TurnsSymbols (curryFrom .outside false) (term.render .grouped) (term.render .curried) := by
  cases term with
  | var name => exact curryFrom_variable name
  | constant name => exact curryFrom_constant name
  | application head arguments =>
    -- Whatever follows, the parenthesis of the application ends it.
    intro rest _
    have whole := curryFrom_application (application?_render head arguments rest)
    rw [arguments.flatMap_texts] at whole
    simpa [Term.render, Rendering.given, Rendering.grouped, Rendering.curried] using whole

/-- Arguments are curried one by one, with a space before each. -/
theorem Arguments.flatMap_texts (arguments : Arguments) :
    ((arguments.texts .grouped).flatMap fun text => ' ' :: curryFrom .outside false text) =
      ' ' :: arguments.render .curried := by
  -- An argument is read as a text of its own, with nothing behind it.
  have alone {text curried : List Char}
      (turns : TurnsSymbols (curryFrom .outside false) text curried) :
      curryFrom .outside false text = curried := by
    have whole := turns [] endsSymbol_nil
    have nothing : curryFrom .outside false [] = [] := by rw [curryFrom]
    rwa [List.append_nil, nothing, List.append_nil] at whole
  cases arguments with
  | last argument =>
    have read := alone argument.curryFrom_render
    simp [Arguments.texts, Arguments.render, read]
  | more argument others =>
    have read := alone argument.curryFrom_render
    -- The first argument is curried on its own, and the others behind it likewise.
    rw [Arguments.texts, List.flatMap_cons, read, others.flatMap_texts]
    rfl

end

/-- Variables behind a comma each are copied if something else follows the last of them. -/
theorem curryFrom_variables (first : Variable) (others : List Variable) {rest : List Char}
    (ends : EndsSymbol rest) :
    curryFrom .outside false
        (first.chars ++ ((others.flatMap fun name => ',' :: name.chars) ++ rest)) =
      first.chars ++ ((others.flatMap fun name => ',' :: name.chars) ++
        curryFrom .outside false rest) := by
  induction others generalizing first with
  | nil => exact curryFrom_variable first rest ends
  | cons second others ih =>
    -- A name ends where the next comma stands.
    have comma := curryFrom_marks [','] (by decide)
      (second.chars ++ ((others.flatMap fun name => ',' :: name.chars) ++ rest))
    rw [ih second, List.singleton_append] at comma
    have whole := curryFrom_variable first (',' :: (second.chars ++
      ((others.flatMap fun name => ',' :: name.chars) ++ rest))) (endsSymbol_cons (by decide))
    rw [comma] at whole
    simpa using whole

/-- A quantifier and its variables are copied. -/
theorem curryFrom_binder (quantifier : Quantifier) (first : Variable) (others : List Variable) :
    Turns (curryFrom .outside false) (renderBinder .grouped quantifier first others)
      (renderBinder .curried quantifier first others) := by
  intro rest
  -- The brackets around the variables stop every symbol.
  have opened := curryFrom_marks ['(', quantifier.mark, '[']
    (by cases quantifier <;> decide) (first.chars ++
      ((others.flatMap fun name => ',' :: name.chars) ++ (']' :: ':' :: rest)))
  have closed := curryFrom_marks [']', ':'] (by decide) rest
  rw [List.cons_append, List.singleton_append] at closed
  rw [curryFrom_variables first others (endsSymbol_cons (by decide)), closed] at opened
  simpa [renderBinder, Rendering.given, Rendering.grouped, Rendering.curried] using opened

/-- Currying goes from grouped quantifiers to curried applications. -/
theorem pass_curryFrom : Pass (curryFrom .outside false) .grouped .curried where
  nothing := by rw [curryFrom]
  -- Only terms change, and all signs between them are copied.
  term := Term.curryFrom_render
  equals right := (curryFrom_marks ['='] (by decide)).before right.curryFrom_render
  unequal := curryFrom_marks _ (by decide)
  verum := curryFrom_symbol _ (by decide)
  falsum := curryFrom_symbol _ (by decide)
  connective connective := curryFrom_marks _ (by cases connective <;> decide)
  binder := curryFrom_binder
  opening := curryFrom_marks _ (by decide)
  closing := curryFrom_marks _ (by decide)
  negation := curryFrom_marks _ (by decide)
  grouped := ⟨rfl, rfl⟩
  endsAtUnequal _ := endsSymbol_cons (by decide)
  endsAtConnective connective _ := by cases connective <;> exact endsSymbol_cons (by decide)

/-- Whether a character neither quotes nor parts variables. -/
def isKept (c : Char) : Bool :=
  ! isMark c && c != ','

/-- The characters of names are kept. -/
theorem isKept_of_isNameChar {c : Char} (inside : isNameChar c = true) : isKept c = true := by
  have unquoted := isMark_of_isSymbolChar (isSymbolChar_of_isNameChar inside)
  have other : c ≠ ',' := ne_of_isNameChar inside (by decide)
  simp [isKept, unquoted, other]

/-- A text without commas and quotes is left alone. -/
theorem spaceCommas_copy (front : List Char) (kept : front.all isKept = true) :
    Turns (spaceCommas .outside) front front := by
  intro rest
  induction front with
  | nil => rfl
  | cons c front ih =>
    -- No character opens a quoted span, so all are read outside.
    obtain ⟨first, later⟩ := Bool.and_eq_true_iff.mp kept
    obtain ⟨unquoted, other⟩ : isMark c = false ∧ c ≠ ',' := by simpa [isKept] using first
    simp [spaceCommas, Quoting.next, unquoted, other, ih later]

/-- Terms that are curried already are left alone. -/
theorem Term.spaceCommas_render (term : Term) :
    Turns (spaceCommas .outside) (term.render .curried) (term.render .spaced) := by
  -- The two renderings differ in their binders only.
  have same : term.render .spaced = term.render .curried := term.render_congr (by rfl) (by rfl)
  rw [same]
  refine spaceCommas_copy _ (List.all_eq_true.mpr fun c member => ?_)
  rcases term.mem_render_curried member with inside | mark
  · exact isKept_of_isNameChar inside
  · have table : ['(', ')', ' '].all isKept = true := by decide
    exact List.all_eq_true.mp table c mark

/-- A space takes the place of each comma between variables. -/
theorem spaceCommas_binder (quantifier : Quantifier) (first : Variable) (others : List Variable) :
    Turns (spaceCommas .outside) (renderBinder .curried quantifier first others)
      (renderBinder .spaced quantifier first others) := by
  -- The commas are the only characters of a binder that change.
  have copied (name : Variable) : Turns (spaceCommas .outside) name.chars name.chars :=
    spaceCommas_copy _ (List.all_eq_true.mpr fun _ member =>
      isKept_of_isNameChar (Variable.isNameChar_of_mem member))
  have comma : Turns (spaceCommas .outside) [','] [' '] := fun rest => by
    simp [spaceCommas, Quoting.next, isMark]
  have opening : Turns (spaceCommas .outside) ['(', quantifier.mark, '[']
      ['(', quantifier.mark, '['] := spaceCommas_copy _ (by cases quantifier <;> decide)
  have closing : Turns (spaceCommas .outside) [']', ':'] [']', ':'] :=
    spaceCommas_copy _ (by decide)
  have later := Turns.flatMap others fun name => comma.append (copied name)
  exact opening.append (((copied first).append later).append closing)

/-- What becomes of the commas left over goes from curried applications to spaced variables. -/
theorem pass_spaceCommas : Pass (spaceCommas .outside) .curried .spaced where
  nothing := rfl
  -- The commas that are left stand between the variables of a binder.
  term term := term.spaceCommas_render.symbols
  equals right := ((spaceCommas_copy ['='] (by decide)).append right.spaceCommas_render).symbols
  unequal := spaceCommas_copy _ (by decide)
  verum := (spaceCommas_copy _ (by decide)).symbols
  falsum := (spaceCommas_copy _ (by decide)).symbols
  connective connective := spaceCommas_copy _ (by cases connective <;> decide)
  binder := spaceCommas_binder
  opening := spaceCommas_copy _ (by decide)
  closing := spaceCommas_copy _ (by decide)
  negation := spaceCommas_copy _ (by decide)
  grouped := ⟨rfl, rfl⟩
  endsAtUnequal _ := endsSymbol_cons (by decide)
  endsAtConnective connective _ := by cases connective <;> exact endsSymbol_cons (by decide)

/-- The second pass curries the applications of a formula, and parts variables by spaces. -/
theorem Sentence.curryApplications_render (formula : Sentence) :
    curryApplications (formula.render .grouped) = formula.render .spaced := by
  rw [curryApplications, formula.pass_render pass_curryFrom, formula.pass_render pass_spaceCommas]

end Retrace.Formula
