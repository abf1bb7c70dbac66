import Retrace.Proofs.Formula.Application
import Retrace.Proofs.Formula.Scope

/-!
Replacing symbols, the third pass: the symbols and binders of a formula get the form that they have
in HOL. An equals sign begins a symbol too, but not before a term. With it the three passes together
carry every formula over to HOL notation, part by part.
-/

namespace Retrace.Formula

/-- A plain character quotes nothing and begins no symbol and no binder. -/
def beginsNothing (c : Char) : Bool :=
  ! isMark c && c != '$' && c != '<' && c != '=' && c != '!' && c != '?'

/-- Nothing is found at a character that begins nothing. -/
theorem form?_plain {c : Char} (rest : List Char) (plain : beginsNothing c = true) :
    form? (c :: rest) = none := by
  simp only [beginsNothing, Bool.and_eq_true, bne_iff_ne] at plain
  -- Every symbol of the table begins with one of these characters.
  obtain ⟨⟨⟨⟨⟨-, dollar⟩, less⟩, equals⟩, negation⟩, question⟩ := plain
  have binder : binder? (c :: rest) = none := by simp [binder?, negation, question]
  have symbol : symbol? (c :: rest) = none := by
    simp [symbol?, symbolForms, Text.after?, Ne.symm dollar, Ne.symm less, Ne.symm equals,
      Ne.symm negation]
  simp [form?, symbol, binder]

/-- Where nothing is found a character is copied. -/
theorem substituteFrom_copy {c : Char} {rest : List Char} (unquoted : isMark c = false)
    (unfound : form? (c :: rest) = none) :
    substituteFrom .outside (c :: rest) = c :: substituteFrom .outside rest := by
  rw [substituteFrom, if_neg (by simp [unquoted])]
  -- Outside quoted spans only what is found is not copied.
  split
  · rename_i form behind found
    simp [unfound] at found
  · rfl

/-- What is found is replaced by its form. -/
theorem substituteFrom_form {c : Char} {rest form behind : List Char} (unquoted : isMark c = false)
    (found : form? (c :: rest) = some (form, behind)) :
    substituteFrom .outside (c :: rest) = form ++ substituteFrom .outside behind := by
  rw [substituteFrom, if_neg (by simp [unquoted])]
  -- The search has one outcome only.
  split
  · rename_i again after same
    obtain ⟨rfl, rfl⟩ : again = form ∧ after = behind := by simpa [found, eq_comm] using same
    rfl
  · rename_i none
    simp [found] at none

/-- Plain characters are copied. -/
theorem substituteFrom_plain (front : List Char) (plain : front.all beginsNothing = true) :
    Turns (substituteFrom .outside) front front := by
  intro rest
  induction front with
  | nil => rfl
  | cons c front ih =>
    obtain ⟨first, later⟩ := Bool.and_eq_true_iff.mp plain
    -- A plain character opens no span, so the next one is read outside as well.
    have unquoted : isMark c = false := by
      simp only [beginsNothing, Bool.and_eq_true, Bool.not_eq_true'] at first
      exact first.1.1.1.1.1
    rw [List.cons_append, substituteFrom_copy unquoted (form?_plain _ first), ih later]
    rfl

/-- A symbol is replaced by its form. -/
theorem substituteFrom_symbol {symbol form : List Char} (listed : (symbol, form) ∈ symbolForms) :
    Turns (substituteFrom .outside) symbol form := by
  intro rest
  simp only [symbolForms, List.mem_cons, Prod.mk.injEq, List.not_mem_nil, or_false] at listed
  -- No symbol begins another, so each row of the table is found.
  rcases listed with ⟨rfl, rfl⟩ | ⟨rfl, rfl⟩ | ⟨rfl, rfl⟩ | ⟨rfl, rfl⟩ | ⟨rfl, rfl⟩
  all_goals exact substituteFrom_form rfl rfl

/-- No character of a name begins anything. -/
theorem beginsNothing_of_isNameChar {c : Char} (inside : isNameChar c = true) :
    beginsNothing c = true := by
  have others : ∀ d ∈ ['\x27', '"', '$', '<', '=', '!', '?'], c ≠ d :=
    forall_ne_of_isNameChar inside (by decide)
  simp_all [beginsNothing, isMark]

/-- Terms are copied. -/
theorem Term.substituteFrom_render (term : Term) :
    Turns (substituteFrom .outside) (term.render .spaced) (term.render .hol) := by
  have source : term.render .spaced = term.render .curried := term.render_congr (by rfl) (by rfl)
  have target : term.render .hol = term.render .curried := term.render_congr (by rfl) (by rfl)
  -- Curried terms have no brackets, and no signs either.
  rw [source, target]
  refine substituteFrom_plain _ (List.all_eq_true.mpr fun c member => ?_)
  rcases term.mem_render_curried member with inside | mark
  · exact beginsNothing_of_isNameChar inside
  · have table : ['(', ')', ' '].all beginsNothing = true := by decide
    exact List.all_eq_true.mp table c mark

/-- The equals sign of an equation is copied: a term behind it makes no arrow of it. -/
theorem Term.substituteFrom_equals (term : Term) :
    Turns (substituteFrom .outside) ('=' :: term.render .spaced) ('=' :: term.render .hol) := by
  intro rest
  -- An equals sign alone is no symbol: the one form that it begins is `=>`.
  have unfound : form? ('=' :: (term.render .spaced ++ rest)) = none := by
    have same : term.render .spaced = term.render .curried := term.render_congr (by rfl) (by rfl)
    rw [same]
    cases first : term.render .curried with
    | nil => exact absurd first term.render_curried_ne_nil
    | cons c others =>
      -- A term begins with a name or a parenthesis.
      have other : c ≠ '>' := by
        rcases term.mem_render_curried (first ▸ List.mem_cons_self) with inside | mark
        · exact ne_of_isNameChar inside (by decide)
        · rintro rfl
          revert mark
          decide
      simp [form?, binder?, symbol?, symbolForms, Text.after?, Ne.symm other]
  rw [List.cons_append, substituteFrom_copy rfl unfound, term.substituteFrom_render rest]
  rfl

/-- The variables of a binder are the words between its brackets. -/
theorem words_variables (first : Variable) (others : List Variable) :
    Text.words (first.chars ++ others.flatMap fun name => ' ' :: name.chars) =
      first.chars :: others.map Name.chars := by
  -- Each of the words is the name of a variable.
  have named : ∀ word ∈ first.chars :: others.map Name.chars, ∃ name : Variable,
      word = name.chars := by
    intro word member
    rcases List.mem_cons.mp member with rfl | later
    · exact ⟨first, rfl⟩
    · obtain ⟨name, -, rfl⟩ := List.mem_map.mp later
      exact ⟨name, rfl⟩
  -- A name holds no blank, and at least one character.
  have filled : ∀ word ∈ first.chars :: others.map Name.chars, ∀ c ∈ word,
      Text.isBlank c = false := by
    intro word member c inside
    obtain ⟨name, rfl⟩ := named word member
    exact isBlank_of_isNameChar (Variable.isNameChar_of_mem inside)
  have nonempty : ∀ word ∈ first.chars :: others.map Name.chars, word ≠ [] := by
    intro word member
    obtain ⟨name, rfl⟩ := named word member
    exact List.cons_ne_nil _ _
  -- Words that are spaced out are found again.
  have whole := Text.words_spaced filled nonempty
  rwa [List.flatMap_map] at whole

/-- A binder is found where its quantifier stands. -/
theorem form?_binder (quantifier : Quantifier) (first : Variable) (others : List Variable)
    (rest : List Char) :
    form? (quantifier.mark :: '[' ::
        ((first.chars ++ others.flatMap fun name => ' ' :: name.chars) ++ ']' :: ':' :: rest)) =
      some ([quantifier.mark, ' '] ++
        (first.chars ++ others.flatMap fun name => ' ' :: name.chars) ++ [' ', '.'], rest) := by
  generalize names : (first.chars ++ others.flatMap fun name => ' ' :: name.chars) = listed
  -- The first bracket that closes is the one behind the variables.
  have inside : ∀ c ∈ listed, (c != ']') = true := by
    intro c member
    subst names
    rcases List.mem_append.mp member with named | later
    · simpa using ne_of_isNameChar (Variable.isNameChar_of_mem named) (by decide)
    · obtain ⟨name, -, held⟩ := List.mem_flatMap.mp later
      rcases List.mem_cons.mp held with rfl | named
      · decide
      · simpa using ne_of_isNameChar (Variable.isNameChar_of_mem named) (by decide)
  have taken : (listed ++ ']' :: ':' :: rest).takeWhile (· != ']') = listed := by
    rw [List.takeWhile_append_of_pos inside]
    simp
  have dropped : (listed ++ ']' :: ':' :: rest).dropWhile (· != ']') = ']' :: ':' :: rest := by
    rw [List.dropWhile_append_of_pos inside]
    rfl
  -- The variables are joined by single spaces already.
  have joined : [' '].intercalate (Text.words listed) = listed := by
    rw [← names, words_variables, Text.intercalate_char, List.flatMap_map]
  -- No symbol starts with a quantifier and a bracket.
  have symbol : symbol? (quantifier.mark :: '[' :: (listed ++ ']' :: ':' :: rest)) = none := by
    cases quantifier <;> rfl
  have bracket : ('[' :: (listed ++ ']' :: ':' :: rest)).dropWhile Text.isBlank =
      '[' :: (listed ++ ']' :: ':' :: rest) := rfl
  have colon : (':' :: rest).dropWhile Text.isBlank = ':' :: rest := rfl
  have mark : quantifier.mark = '!' ∨ quantifier.mark = '?' := by cases quantifier <;> decide
  rw [form?, symbol, Option.none_or, binder?, if_pos mark]
  simp only [bracket, dropped, colon, taken, joined]

/-- A binder gets its form in HOL. -/
theorem substituteFrom_binder (quantifier : Quantifier) (first : Variable)
    (others : List Variable) :
    Turns (substituteFrom .outside) (renderBinder .spaced quantifier first others)
      (renderBinder .hol quantifier first others) := by
  intro rest
  -- The parenthesis before the quantifier is copied.
  have opened := substituteFrom_plain ['('] (by decide)
    (quantifier.mark :: '[' :: ((first.chars ++ others.flatMap fun name => ' ' :: name.chars) ++
        ']' :: ':' :: rest))
  have unquoted : isMark quantifier.mark = false := by cases quantifier <;> rfl
  rw [substituteFrom_form unquoted (form?_binder quantifier first others rest)] at opened
  simpa [renderBinder, Rendering.given, Rendering.grouped, Rendering.curried, Rendering.spaced,
    Rendering.hol] using opened

/-- Replacing symbols goes from spaced variables to HOL notation. -/
theorem pass_substituteFrom : Pass (substituteFrom .outside) .spaced .hol where
  nothing := by rw [substituteFrom]
  term term := term.substituteFrom_render.symbols
  equals right := right.substituteFrom_equals.symbols
  unequal := substituteFrom_symbol (by decide)
  verum := (substituteFrom_symbol (by decide)).symbols
  falsum := (substituteFrom_symbol (by decide)).symbols
  -- Only implications and equivalences have other symbols in HOL.
  connective
    | .or => substituteFrom_plain _ (by decide)
    | .and => substituteFrom_plain _ (by decide)
    | .implies => substituteFrom_symbol (by decide)
    | .iff => substituteFrom_symbol (by decide)
  binder := substituteFrom_binder
  opening := substituteFrom_plain _ (by decide)
  closing := substituteFrom_plain _ (by decide)
  negation := substituteFrom_plain _ (by decide)
  grouped := ⟨rfl, rfl⟩
  endsAtUnequal _ := endsSymbol_cons (by decide)
  endsAtConnective connective _ := by cases connective <;> exact endsSymbol_cons (by decide)

/-- The third pass brings a formula into HOL notation. -/
theorem Sentence.substituteSymbols_render (formula : Sentence) :
    substituteSymbols (formula.render .spaced) = formula.render .hol :=
  formula.pass_render pass_substituteFrom

/-- A formula is turned into the rendering of the same tree in HOL notation. -/
theorem Sentence.translate_render (formula : Sentence) :
    translate (String.ofList (formula.render .given)) =
      String.ofList (formula.render .hol) := by
  -- Each pass reads the rendering that the one before it has written.
  rw [translate, toHol, String.toList_ofList, formula.groupQuantifiers_render,
    formula.curryApplications_render, formula.substituteSymbols_render]

-- The arrow stays outside the inner scope, and the comma of the arguments is none of the variables.
example : translate "![X,Y]:(p(X,f(Y))=>?[Z]:(Z!=a))" = "(! X Y .((p X (f Y))-->(? Z .(Z~=a))))" := by
  decide +kernel

end Retrace.Formula
