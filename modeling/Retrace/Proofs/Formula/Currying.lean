import Retrace.Proofs.Formula.Application
import Retrace.Proofs.Formula.Bracketing
import Retrace.Proofs.Formula.Untouched
import Retrace.Proofs.Formula.Verbatim

/-!
What currying makes of any text. Its parentheses stay in order, and so does everything else that is
neither a blank nor a comma. Of a text whose brackets are nested no application is left, and neither
is a comma, so that currying it once more changes nothing.
-/

namespace Retrace.Formula

open Text (isBlank trim)

/-- A round bracket. -/
def isParenthesis (c : Char) : Bool :=
  c == '(' || c == ')'

/-- There are two of them. -/
theorem isParenthesis_iff {c : Char} : isParenthesis c = true ↔ c = '(' ∨ c = ')' := by
  simp [isParenthesis]

/-- No blank is a parenthesis. -/
theorem isParenthesis_of_isBlank {c : Char} (blank : isBlank c = true) : isParenthesis c = false := by
  refine Bool.eq_false_iff.mpr fun round => ?_
  rcases isParenthesis_iff.mp round with rfl | rfl <;> cases blank

/-- Neither is a symbol character. -/
theorem isParenthesis_of_isSymbolChar {c : Char} (symbol : isSymbolChar c = true) :
    isParenthesis c = false := by
  refine Bool.eq_false_iff.mpr fun round => ?_
  rcases isParenthesis_iff.mp round with rfl | rfl <;> cases symbol

/-- The parentheses of a text are kept, in order. -/
theorem filter_curryApplications_isParenthesis (text : List Char) :
    (curryApplications text).filter isParenthesis = text.filter isParenthesis :=
  -- That of an application comes before its head, which holds none.
  filter_curryApplications (fun _ blank => isParenthesis_of_isBlank blank) rfl
    (fun _ _ symbol => isParenthesis_of_isSymbolChar symbol) text

/-- Currying keeps the parentheses of a text, and it keeps whatever is none and is no blank or comma
either, both in order. -/
theorem curryApplications_lossless (text : List Char) :
    (curryApplications text).filter isParenthesis = text.filter isParenthesis ∧
      (curryApplications text).filter (! isLoose ·) = text.filter (! isLoose ·) := by
  refine ⟨filter_curryApplications_isParenthesis text, ?_⟩
  -- Nothing but blanks, commas and parentheses is moved or dropped.
  have blanks (c : Char) (blank : isBlank c = true) : (! isLoose c) = false := by
    simp [isLoose, blank]
  have apart (kept : (! isLoose '(') = true) (c : Char) (_ : isSymbolChar c = true) :
      (! isLoose c) = false := by
    cases kept
  exact filter_curryApplications blanks rfl apart text

section Applied

variable {quoting : Quoting} {inSymbol : Bool} {c : Char} {text other head rest : List Char}

/-- Outside every span, a head stands directly before a parenthesis, and no symbol character before
the head. `inSymbol` tells whether one stands before the text. -/
def Applies (quoting : Quoting) (inSymbol : Bool) (text : List Char) : Prop :=
  ∃ front head back, text = front ++ (head ++ '(' :: back) ∧ IsHead head ∧
    quoting.past front = .outside ∧ (front = [] → inSymbol = false) ∧
    ∀ c ∈ front.getLast?, isSymbolChar c = false

/-- No head is empty. -/
theorem IsHead.exists_cons (applied : IsHead head) :
    ∃ c others, head = c :: others ∧ c.isLower = true ∧ isSymbolChar c = true ∧
      ∀ d ∈ others, isSymbolChar d = true := by
  obtain ⟨⟨c, first, small⟩, symbolic⟩ := applied
  cases head with
  | nil => cases first
  | cons d others =>
    obtain rfl : d = c := by simpa using first
    obtain ⟨symbol, later⟩ := List.forall_mem_cons.mp symbolic
    exact ⟨d, others, rfl, small, symbol, later⟩

/-- In a span nothing is applied, and a symbol before a span ends with it. -/
theorem applies_cons_of_covers (marked : quoting.Marked) (covered : quoting.covers c = true) :
    Applies quoting inSymbol (c :: text) ↔ Applies (quoting.next c) false text := by
  constructor
  · rintro ⟨front, head, back, whole, applied, outside, -, before⟩
    cases front with
    | nil =>
      -- The character would be a symbol character outside every span.
      obtain ⟨d, others, rfl, -, symbol, -⟩ := applied.exists_cons
      obtain ⟨rfl, -⟩ := List.cons.inj whole
      obtain rfl : quoting = .outside := outside
      rw [Quoting.covers_outside, isMark_of_isSymbolChar symbol] at covered
      cases covered
    | cons d front =>
      obtain ⟨rfl, rfl⟩ := List.cons.inj whole
      refine ⟨front, head, back, rfl, applied, outside, fun _ => rfl, fun e last => before e ?_⟩
      exact List.mem_getLast?_cons last
  · rintro ⟨front, head, back, rfl, applied, outside, -, before⟩
    refine ⟨c :: front, head, back, rfl, applied, outside, by simp, fun e last => ?_⟩
    cases front with
    | cons d front => exact before e (by simpa using last)
    | nil =>
      -- The character that ends a span is its mark.
      obtain rfl : c = e := by simpa using last
      have mark := marked.isMark_of_next covered outside
      cases symbol : isSymbolChar c with
      | false => rfl
      | true =>
        rw [isMark_of_isSymbolChar symbol] at mark
        cases mark

/-- Outside spans, something is applied at once or behind the first character. -/
theorem applies_cons (unmarked : isMark c = false) :
    Applies .outside inSymbol (c :: text) ↔
      (inSymbol = false ∧ ∃ head back, c :: text = head ++ '(' :: back ∧ IsHead head) ∨
        Applies .outside (isSymbolChar c) text := by
  have left := Quoting.next_of_unmarked unmarked
  constructor
  · rintro ⟨front, head, back, whole, applied, outside, fresh, before⟩
    -- Something that is applied starts with the first character or behind it.
    cases front with
    | nil => exact .inl ⟨fresh rfl, head, back, whole, applied⟩
    | cons d front =>
      obtain ⟨rfl, rfl⟩ := List.cons.inj whole
      rw [Quoting.past_cons, left] at outside
      refine .inr ⟨front, head, back, rfl, applied, outside, ?_, fun e last => before e ?_⟩
      · rintro rfl
        exact before c rfl
      · exact List.mem_getLast?_cons last
  · rintro (⟨fresh, head, back, whole, applied⟩ |
      ⟨front, head, back, rfl, applied, outside, fresh, before⟩)
    · exact ⟨[], head, back, whole, applied, rfl, fun _ => fresh, by simp⟩
    · -- The character in front of the head is the same, unless the head comes right behind the
      -- first one.
      refine ⟨c :: front, head, back, rfl, applied, ?_, by simp, fun e last => ?_⟩
      · rw [Quoting.past_cons, left, outside]
      · cases front with
        | nil =>
          obtain rfl : c = e := by simpa using last
          exact fresh rfl
        | cons d front => exact before e (by simpa using last)

/-- A character that belongs to no symbol is none that a head begins with. -/
theorem applies_cons_of_other (unmarked : isMark c = false) (other : isSymbolChar c = false) :
    Applies .outside inSymbol (c :: text) ↔ Applies .outside false text := by
  rw [applies_cons unmarked, other]
  refine or_iff_right ?_
  rintro ⟨-, head, back, whole, applied⟩
  obtain ⟨d, others, rfl, -, symbol, -⟩ := applied.exists_cons
  obtain ⟨rfl, -⟩ := List.cons.inj whole
  rw [symbol] at other
  cases other

/-- If symbols end before the second of two texts, nothing is applied across the two. -/
theorem Applies.of_append (ends : EndsSymbol rest) (whole : Applies quoting inSymbol (text ++ rest)) :
    Applies quoting inSymbol text ∨ Applies (quoting.past text) false rest := by
  obtain ⟨front, head, back, split, applied, outside, fresh, before⟩ := whole
  rcases List.append_eq_append_iff.mp split with ⟨between, rfl, later⟩ | ⟨between, rfl, later⟩
  · -- The second text starts in front of the head or with it.
    cases between with
    | nil =>
      obtain ⟨d, others, rfl, -, symbol, -⟩ := applied.exists_cons
      rw [(ends d (by simp [later])).1] at symbol
      cases symbol
    | cons d between =>
      rw [Quoting.past_append] at outside
      refine .inr ⟨d :: between, head, back, later, applied, outside, fun _ => rfl, fun e last => ?_⟩
      exact before e (by simpa using last)
  · rcases List.append_eq_append_iff.mp later with ⟨behind, rfl, after⟩ | ⟨behind, rfl, after⟩
    · -- It starts behind the head, which its first character cannot be the parenthesis of.
      cases behind with
      | nil =>
        obtain rfl : '(' :: back = rest := after
        exact absurd rfl (ends '(' rfl).2
      | cons d behind =>
        obtain ⟨rfl, rfl⟩ := List.cons.inj after
        exact .inl ⟨front, head, behind, rfl, applied, outside, fresh, before⟩
    · -- It starts in the head, but with no symbol character.
      cases behind with
      | nil => exact absurd rfl (ends '(' (by simp [after])).2
      | cons d behind =>
        have symbol := applied.2 d (by simp)
        rw [(ends d (by simp [after])).1] at symbol
        cases symbol

/-- Nothing is applied in a run of symbol characters. -/
theorem not_applies_symbols (symbolic : ∀ c ∈ text, isSymbolChar c = true) :
    ¬ Applies quoting inSymbol text := by
  rintro ⟨front, head, back, rfl, -⟩
  -- A parenthesis is no symbol character.
  have symbol := symbolic '(' (by simp)
  cases symbol

/-- Nothing is applied in an empty text. -/
theorem not_applies_nil : ¬ Applies quoting inSymbol [] :=
  not_applies_symbols (by simp)

/-- If symbol characters and a parenthesis come out of a pass that copies symbol characters, and makes
neither these nor a parenthesis of any other character, they stood in the text. -/
theorem of_eq_head {pass : List Char → List Char} (nothing : pass [] = [])
    (copies : ∀ c text, isSymbolChar c = true → pass (c :: text) = c :: pass text)
    (others : ∀ c text, isSymbolChar c = false →
      ∃ d image, pass (c :: text) = d :: image ∧ isSymbolChar d = false ∧ (d = '(' → c = '('))
    {back : List Char} (symbolic : ∀ c ∈ head, isSymbolChar c = true)
    (passed : pass text = head ++ '(' :: back) :
    ∃ behind, text = head ++ '(' :: behind := by
  induction head generalizing text with
  | nil =>
    cases text with
    | nil => simp [nothing] at passed
    | cons c text =>
      -- Without a head the parenthesis comes first, and it is made of no other character.
      cases symbol : isSymbolChar c with
      | true =>
        rw [copies c text symbol] at passed
        exact ⟨text, congrArg (· :: text) (List.cons.inj passed).1⟩
      | false =>
        obtain ⟨d, image, shown, -, opens⟩ := others c text symbol
        rw [shown] at passed
        exact ⟨text, congrArg (· :: text) (opens (List.cons.inj passed).1)⟩
  | cons d head ih =>
    obtain ⟨symbol, later⟩ := List.forall_mem_cons.mp symbolic
    cases text with
    | nil => simp [nothing] at passed
    | cons c text =>
      -- The first character came from a symbol character, which is itself.
      have inside : isSymbolChar c = true := by
        by_contra outside
        obtain ⟨e, image, shown, other, -⟩ := others c text (by simpa using outside)
        rw [shown] at passed
        obtain ⟨rfl, -⟩ := List.cons.inj passed
        rw [symbol] at other
        cases other
      rw [copies c text inside] at passed
      obtain ⟨rfl, rest⟩ := List.cons.inj passed
      obtain ⟨behind, rfl⟩ := ih later rest
      exact ⟨behind, rfl⟩

/-- If symbol characters and a parenthesis come out of currying behind a symbol character, they stood
there. -/
theorem curryFrom_eq_head {back : List Char} (symbolic : ∀ c ∈ head, isSymbolChar c = true)
    (curried : curryFrom .outside true text = head ++ '(' :: back) :
    ∃ behind, text = head ++ '(' :: behind := by
  refine of_eq_head (by rw [curryFrom]) (fun c text symbol => ?_) (fun c text other => ?_) symbolic
    curried
  · rw [curryFrom_copy (isMark_of_isSymbolChar symbol) (.inl rfl), symbol]
  · exact ⟨c, _, curryFrom_cons true text other, other, id⟩

end Applied

section Nested

variable {quoting : Quoting} {inSymbol : Bool} {c : Char}
variable {text group head rest awaited inner : List Char}

/-- The arguments between the parentheses of an application are nested if the text is that stands
there. -/
theorem nested_argumentsOf (plain : PlainlyQuoted .outside inner) (nested : Nested inner) :
    ∀ argument ∈ argumentsOf inner, Nested argument := by
  obtain ⟨first, others, cut, start, later⟩ :=
    cutAtCommas_of_nested Nesting.tells_start Quoting.marked_outside plain nested
  obtain ⟨start', others', cut', opened, closed, -⟩ :=
    @seen_cutAtCommas (fun _ => true) .outside inner rfl {} Quoting.marked_outside rfl plain
  obtain ⟨rfl, rfl⟩ : first = start' ∧ others = others' := by simpa [cut] using cut'
  intro argument member
  obtain ⟨piece, among, rfl⟩ := List.mem_map.mp (List.mem_filter.mp member).1
  rw [cut] at among
  -- An argument is a piece that blanks have been taken from.
  have quoted : PlainlyQuoted .outside piece := List.forall_mem_cons.mpr ⟨opened, closed⟩ piece among
  have whole : Nested piece := List.forall_mem_cons.mpr ⟨start, later⟩ piece among
  exact whole.congr (seen_trim (fun _ blank => blank) quoted.closed).symm

/-- In front of a head nothing else is awaited than behind it. -/
theorem nestedFrom_head (symbolic : ∀ c ∈ head, isSymbolChar c = true)
    (nested : NestedFrom .outside awaited (head ++ rest)) : NestedFrom .outside awaited rest := by
  induction head with
  | nil => exact nested
  | cons c head ih =>
    obtain ⟨symbol, later⟩ := List.forall_mem_cons.mp symbolic
    obtain ⟨between, found, nested⟩ := (nestedFrom_cons (isMark_of_isSymbolChar symbol)).mp nested
    -- No symbol character is a bracket.
    have unchanged : await? awaited c = some awaited := by
      refine await?_of_ne fun d member same => ?_
      have table : ['(', '[', ')', ']'].all (! isSymbolChar ·) = true := by decide
      simpa [← same, symbol] using List.all_eq_true.mp table d member
    obtain rfl : awaited = between := by simpa [unchanged] using found
    exact ih later nested

/-- A head that stands before a group is found to be applied if the text is nested, and its arguments
are nested as well as what follows. -/
theorem application?_of_nested (applied : IsHead head)
    (plain : PlainlyQuoted .outside (head ++ '(' :: group))
    (nested : NestedFrom .outside awaited (head ++ '(' :: group)) :
    ∃ found, application? (head ++ '(' :: group) = some found ∧
      (∀ argument ∈ found.arguments, Nested argument) ∧ NestedFrom .outside awaited found.rest := by
  have outside : Quoting.outside.past head = .outside :=
    past_of_unmarked fun c member => isMark_of_isSymbolChar (applied.2 c member)
  have quoted := (plain.of_append outside).2.of_cons.2
  obtain ⟨between, opened, enclosed⟩ := (nestedFrom_cons rfl).mp (nestedFrom_head applied.2 nested)
  obtain rfl : ')' :: awaited = between := Option.some.inj opened
  obtain ⟨inner, rest, split, inside, behind⟩ :=
    @splitGroup_of_nested .outside awaited group [] Quoting.marked_outside quoted enclosed
  have whole := splitGroup_append split
  subst whole
  -- The arguments are cut from what stands between the parentheses.
  exact ⟨_, application?_of_isHead applied split,
    nested_argumentsOf (quoted.of_splitGroup split).1 inside, behind⟩

/-- The arguments of an application are nested, and so is what follows it. -/
theorem nested_application? {found : Application} (starts : application? text = some found)
    (plain : PlainlyQuoted .outside text) (nested : NestedFrom .outside awaited text) :
    (∀ argument ∈ found.arguments, Nested argument) ∧ NestedFrom .outside awaited found.rest := by
  obtain ⟨inner, whole, -, -, -⟩ := of_application? starts
  subst whole
  obtain ⟨again, same, parts⟩ := application?_of_nested (isHead_of_application? starts) plain nested
  obtain rfl : found = again := Option.some.inj (starts.symm.trans same)
  exact parts

/-- Curried texts close their spans if what they are read from is quoted plainly. -/
theorem past_curryFrom (plain : PlainlyQuoted quoting text) :
    quoting.past (curryFrom quoting inSymbol text) = .outside := by
  have blanks (c : Char) (blank : isBlank c = true) : isLoose c = true := by simp [isLoose, blank]
  rw [past_congr (seen_curryFrom blanks rfl rfl rfl plain), plain.closed]

/-- Nothing is applied in texts with spaces in front of them if nothing is in the texts themselves and
in what follows. -/
theorem not_applies_spaced {pieces : List (List Char)}
    (alone : ∀ piece ∈ pieces, ¬ Applies .outside false piece)
    (closed : ∀ piece ∈ pieces, Quoting.outside.past piece = .outside) (ends : EndsSymbol rest)
    (behind : ¬ Applies .outside false rest) :
    EndsSymbol (pieces.flatMap (' ' :: ·) ++ rest) ∧
      ¬ Applies .outside false (pieces.flatMap (' ' :: ·) ++ rest) := by
  induction pieces with
  | nil => exact ⟨ends, behind⟩
  | cons piece pieces ih =>
    obtain ⟨first, others⟩ := List.forall_mem_cons.mp alone
    obtain ⟨outside, later⟩ := List.forall_mem_cons.mp closed
    obtain ⟨parted, unapplied⟩ := ih others later
    rw [List.flatMap_cons, List.cons_append, List.cons_append, List.append_assoc]
    refine ⟨endsSymbol_cons (by decide), fun applies => ?_⟩
    -- Nothing is applied across two pieces, for a space parts them.
    rw [applies_cons_of_other rfl rfl] at applies
    -- Then it is applied in the first piece or behind it.
    rcases applies.of_append parted with inside | after
    · exact first inside
    · rw [outside] at after
      exact unapplied after

/-- Nothing is applied any more in a text that has been curried, if its brackets are nested. -/
theorem not_applies_curryFrom (marked : quoting.Marked) (plain : PlainlyQuoted quoting text)
    (nested : NestedFrom quoting awaited text) :
    ¬ Applies quoting inSymbol (curryFrom quoting inSymbol text) := by
  fun_induction curryFrom quoting inSymbol text generalizing awaited with
  | case1 => exact not_applies_nil
  | case2 quoting inSymbol c rest covered ih =>
    rw [applies_cons_of_covers marked covered]
    exact ih (marked.next c) plain.of_cons.2 ((nestedFrom_cons_of_covers covered).mp nested)
  | case3 quoting inSymbol c rest uncovered application found arguments ih =>
    obtain ⟨rfl, -, -⟩ := Quoting.of_not_covers (by simpa using uncovered)
    have starts : application? (c :: rest) = some application := by
      split at found
      · cases found
      · exact found
    have blanks (c : Char) (blank : isBlank c = true) : isLoose c = true := by simp [isLoose, blank]
    obtain ⟨quoted, behind, head, -⟩ := seen_application? blanks rfl rfl rfl starts plain
    obtain ⟨inside, after⟩ := nested_application? starts plain nested
    -- Neither in the arguments nor behind the application anything is applied any more.
    have last : ¬ Applies .outside false (')' :: curryFrom .outside false application.rest) := by
      rw [applies_cons_of_other rfl rfl]
      exact ih Quoting.marked_outside behind after
    have pieces : (application.arguments.attach.flatMap fun argument =>
        ' ' :: curryFrom .outside false argument.1) =
          (application.arguments.map (curryFrom .outside false)).flatMap (' ' :: ·) := by
      simp [List.flatMap_map]
    obtain ⟨ends, unapplied⟩ := @not_applies_spaced
      (')' :: curryFrom .outside false application.rest)
      (application.arguments.map (curryFrom .outside false))
      (List.forall_mem_map.mpr fun argument member =>
        arguments ⟨argument, member⟩ Quoting.marked_outside (quoted argument member)
          (inside argument member))
      (List.forall_mem_map.mpr fun argument member => past_curryFrom (quoted argument member))
      (endsSymbol_cons (by decide)) last
    rw [pieces, List.append_assoc, List.cons_append, applies_cons_of_other rfl rfl]
    intro applies
    -- Behind the head there is a space or the closing parenthesis, but no opening one.
    rcases applies.of_append ends with first | later
    · exact not_applies_symbols (isHead_of_application? starts).2 first
    · rw [head] at later
      exact unapplied later
  | case4 quoting inSymbol c rest uncovered none ih =>
    obtain ⟨rfl, unmarked, left⟩ := Quoting.of_not_covers (by simpa using uncovered)
    obtain ⟨between, -, later⟩ := (nestedFrom_cons unmarked).mp nested
    have behind := plain.of_cons.2
    rw [left] at behind
    rw [applies_cons unmarked, not_or]
    refine ⟨?_, ih Quoting.marked_outside behind later⟩
    rintro ⟨rfl, head, back, whole, applied⟩
    -- The head would have stood in the text, where it would have been found.
    obtain ⟨d, others, rfl, -, symbol, symbolic⟩ := applied.exists_cons
    obtain ⟨rfl, curried⟩ := List.cons.inj whole
    rw [symbol] at curried
    obtain ⟨group, rfl⟩ := curryFrom_eq_head symbolic curried
    obtain ⟨found, starts, -⟩ := application?_of_nested applied plain nested
    rw [dif_neg Bool.false_ne_true] at none
    exact Option.some_ne_none found (starts.symm.trans none)

/-- A text in which nothing is applied is left alone by currying. -/
theorem curryFrom_eq_self (marked : quoting.Marked) (unapplied : ¬ Applies quoting inSymbol text) :
    curryFrom quoting inSymbol text = text := by
  fun_induction curryFrom quoting inSymbol text with
  | case1 => rfl
  | case2 quoting inSymbol c rest covered ih =>
    rw [applies_cons_of_covers marked covered] at unapplied
    rw [ih (marked.next c) unapplied]
  | case3 quoting inSymbol c rest uncovered application found arguments ih =>
    -- The application that was found would be one.
    obtain ⟨rfl, -, -⟩ := Quoting.of_not_covers (by simpa using uncovered)
    split at found
    · cases found
    · rename_i fresh
      obtain ⟨inner, whole, -, -, -⟩ := of_application? found
      exact absurd ⟨[], application.head, _, whole, isHead_of_application? found, rfl,
        fun _ => by simpa using fresh, by simp⟩ unapplied
  | case4 quoting inSymbol c rest uncovered none ih =>
    obtain ⟨rfl, unmarked, -⟩ := Quoting.of_not_covers (by simpa using uncovered)
    -- Nothing is applied behind the character either.
    rw [applies_cons unmarked, not_or] at unapplied
    rw [ih Quoting.marked_outside unapplied.2]

end Nested

section Commas

variable {quoting : Quoting} {inSymbol : Bool} {text head : List Char}

/-- A comma outside spans becomes a space. -/
theorem spaceCommas_comma (text : List Char) :
    spaceCommas .outside (',' :: text) = ' ' :: spaceCommas .outside text := by
  simp [spaceCommas, isMark, Quoting.next]

/-- Any other character is copied, and so is a comma in a span. -/
theorem spaceCommas_cons {c : Char} (other : c ≠ ',' ∨ quoting.covers c = true)
    (text : List Char) :
    spaceCommas quoting (c :: text) = c :: spaceCommas (quoting.next c) text := by
  rw [spaceCommas, if_neg]
  rintro ⟨same, uncovered⟩
  exact other.elim (fun differs => differs same) uncovered

/-- A character is a comma outside spans or any other. -/
theorem comma_or_other (quoting : Quoting) (c : Char) :
    (quoting = .outside ∧ c = ',') ∨ (c ≠ ',' ∨ quoting.covers c = true) := by
  cases covered : quoting.covers c with
  | true => exact .inr (.inr rfl)
  | false =>
    obtain ⟨rfl, -, -⟩ := Quoting.of_not_covers covered
    rcases eq_or_ne c ',' with same | differs
    · exact .inl ⟨rfl, same⟩
    · exact .inr (.inl differs)

/-- No comma is left outside spans. -/
theorem comma_notMem_spaceCommas (quoting : Quoting) (text : List Char) :
    ',' ∉ unquoted quoting (spaceCommas quoting text) := by
  induction text generalizing quoting with
  | nil => exact List.not_mem_nil
  | cons c text ih =>
    rcases comma_or_other quoting c with ⟨rfl, rfl⟩ | other
    · -- A comma outside spans has become a space.
      rw [spaceCommas_comma, unquoted_cons rfl]
      exact List.not_mem_cons_of_ne_of_not_mem (by decide) (ih .outside)
    · rw [spaceCommas_cons other]
      cases covered : quoting.covers c with
      | true =>
        rw [unquoted_cons_of_covers covered]
        exact ih _
      | false =>
        -- The character is no comma, for it stands outside spans.
        rw [unquoted_cons covered]
        have differs : c ≠ ',' := by simpa [covered] using other
        exact List.not_mem_cons_of_ne_of_not_mem differs.symm (ih _)

/-- Where commas have become spaces, there is nothing left to do. -/
theorem spaceCommas_spaceCommas (quoting : Quoting) (text : List Char) :
    spaceCommas quoting (spaceCommas quoting text) = spaceCommas quoting text := by
  induction text generalizing quoting with
  | nil => rfl
  | cons c text ih =>
    rcases comma_or_other quoting c with ⟨rfl, rfl⟩ | other
    · rw [spaceCommas_comma, spaceCommas_cons (.inl (by decide))]
      exact congrArg _ (ih .outside)
    · rw [spaceCommas_cons other, spaceCommas_cons other, ih]

/-- If symbol characters and a parenthesis come out with spaces for commas, they stood there. -/
theorem spaceCommas_eq_head {back : List Char} (symbolic : ∀ c ∈ head, isSymbolChar c = true)
    (spaced : spaceCommas .outside text = head ++ '(' :: back) :
    ∃ behind, text = head ++ '(' :: behind := by
  refine of_eq_head rfl (fun c text symbol => ?_) (fun c text other => ?_) symbolic spaced
  · -- A symbol character is no comma, so it is copied.
    have differs : c ≠ ',' := by
      rintro rfl
      cases symbol
    rw [spaceCommas_cons (.inl differs), Quoting.next_of_unmarked (isMark_of_isSymbolChar symbol)]
  · rcases comma_or_other .outside c with ⟨-, rfl⟩ | same
    · -- The space that a comma becomes is neither a symbol character nor a parenthesis.
      exact ⟨' ', _, spaceCommas_comma text, by decide, by decide⟩
    · exact ⟨c, _, spaceCommas_cons same text, other, id⟩

/-- Spaces for commas apply nothing that is not applied before. -/
theorem Applies.of_spaceCommas (marked : quoting.Marked)
    (spaced : Applies quoting inSymbol (spaceCommas quoting text)) :
    Applies quoting inSymbol text := by
  induction text generalizing quoting inSymbol with
  | nil => exact spaced
  | cons c text ih =>
    rcases comma_or_other quoting c with ⟨rfl, rfl⟩ | other
    · -- A comma starts no symbol, and neither does the space that it becomes.
      rw [spaceCommas_comma, applies_cons_of_other rfl rfl] at spaced
      rw [applies_cons_of_other rfl rfl]
      exact ih marked spaced
    · rw [spaceCommas_cons other] at spaced
      cases covered : quoting.covers c with
      | true =>
        rw [applies_cons_of_covers marked covered] at spaced ⊢
        exact ih (marked.next c) spaced
      | false =>
        obtain ⟨rfl, unmarked, left⟩ := Quoting.of_not_covers covered
        rw [left, applies_cons unmarked] at spaced
        rw [applies_cons unmarked]
        -- What is applied here stands in front of all commas, and was not changed.
        refine spaced.imp ?_ (ih marked)
        rintro ⟨fresh, head, back, whole, applied⟩
        obtain ⟨d, others, rfl, -, symbol, symbolic⟩ := applied.exists_cons
        obtain ⟨rfl, spaced⟩ := List.cons.inj whole
        obtain ⟨behind, rfl⟩ := spaceCommas_eq_head symbolic spaced
        exact ⟨fresh, c :: others, behind, rfl, applied⟩

end Commas

/-- Outside every span, a head that no symbol character stands before is directly followed by a
parenthesis. -/
def HasApplication (text : List Char) : Prop :=
  ∃ front head back, text = front ++ head ++ '(' :: back ∧ Terminated (front ++ head) ∧ IsHead head ∧
    ∀ c ∈ front.getLast?, isSymbolChar c = false

/-- An application is one for a scanner that starts outside, where the head stands outside as well. -/
theorem HasApplication.applies {text : List Char} (applied : HasApplication text) :
    Applies .outside false text := by
  obtain ⟨front, head, back, rfl, closed, names, before⟩ := applied
  refine ⟨front, head, back, by simp, names, ?_, fun _ => rfl, before⟩
  -- No character of a head closes a span.
  rw [Terminated, Quoting.past_append] at closed
  exact (Quoting.marked_outside.past front).outside_of_past
    (fun c member => isMark_of_isSymbolChar (names.2 c member)) closed

/-- Of a text with its spans closed, no backslash in these, and its brackets nested, currying leaves
no comma outside spans and no application, and once it has been curried it stays as it is. -/
theorem curryApplications_idempotent (text : List Char) (closed : Terminated text)
    (plain : ∀ span ∈ spans text, '\\' ∉ span) (nested : Nested text) :
    curryApplications (curryApplications text) = curryApplications text ∧
      ',' ∉ unquoted .outside (curryApplications text) ∧
      ¬ HasApplication (curryApplications text) := by
  have quoted : PlainlyQuoted .outside text := ⟨unescaped_of_spansFrom plain (by simp), closed⟩
  have unapplied : ¬ Applies .outside false (curryApplications text) := fun applies =>
    not_applies_curryFrom Quoting.marked_outside quoted nested
      (applies.of_spaceCommas Quoting.marked_outside)
  refine ⟨?_, comma_notMem_spaceCommas _ _, fun applied => unapplied applied.applies⟩
  -- Neither of the two steps has anything left to do.
  rw [curryApplications, curryFrom_eq_self Quoting.marked_outside unapplied, curryApplications,
    spaceCommas_spaceCommas]

/-- A comma in a span stays, and so do the brackets of a list. -/
theorem curryApplications_idempotent_quoted :
    Terminated "p(X,f('a, b'),[Y,Z])".toList ∧
      (∀ span ∈ spans "p(X,f('a, b'),[Y,Z])".toList, '\\' ∉ span) ∧
      Nested "p(X,f('a, b'),[Y,Z])".toList ∧
      curryApplications "p(X,f('a, b'),[Y,Z])".toList = "(p X (f 'a, b') [Y Z])".toList ∧
      curryApplications (curryApplications "p(X,f('a, b'),[Y,Z])".toList) =
        curryApplications "p(X,f('a, b'),[Y,Z])".toList ∧
      ',' ∉ unquoted .outside (curryApplications "p(X,f('a, b'),[Y,Z])".toList) ∧
      ¬ HasApplication (curryApplications "p(X,f('a, b'),[Y,Z])".toList) :=
  ⟨by decide, by decide, by decide, by decide +kernel,
    curryApplications_idempotent "p(X,f('a, b'),[Y,Z])".toList (by decide) (by decide) (by decide)⟩

end Retrace.Formula
