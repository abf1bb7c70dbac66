import Retrace.Clause.Reader
import Retrace.Proofs.Text.Runs

/-!
The grammar of clause lines, and the proof that lines are read by it: a trimmed line holds a clause
exactly if it is derived by the grammar, whatever its brackets and quotes are like.
-/

namespace Retrace

namespace Formula

/-- The nesting behind a text. -/
def Nesting.past (nesting : Nesting) (text : List Char) : Nesting :=
  text.foldl Nesting.next nesting

/-- A text behind which no quote and no bracket is open. -/
def EndsOutside (text : List Char) : Prop :=
  (Nesting.past {} text).quote = none ∧ (Nesting.past {} text).depth = 0

/-- A text of which no comma stands outside brackets and quotes. -/
def Unparted (text : List Char) : Prop :=
  ∀ front back, text = front ++ ',' :: back → ¬ EndsOutside front

/-- Outside brackets and quotes a comma separates, and nothing else does. -/
theorem Nesting.separates_iff {nesting : Nesting} {c : Char} :
    nesting.separates c = true ↔ c = ',' ∧ nesting.quote = none ∧ nesting.depth = 0 := by
  simp [separates, and_assoc]

/-- A text is split at the first comma that separates. -/
theorem splitAtComma_eq_some_iff {nesting : Nesting} {text before after : List Char} :
    splitAtComma nesting text = some (before, after) ↔
      text = before ++ ',' :: after ∧ (nesting.past before).separates ',' = true ∧
        ∀ front back, before = front ++ ',' :: back →
          (nesting.past front).separates ',' = false := by
  induction text generalizing nesting before with
  | nil => simp [splitAtComma]
  | cons c text ih =>
    rw [splitAtComma]
    by_cases separates : nesting.separates c = true
    · -- The comma that separates at once is the first one.
      obtain ⟨rfl, -⟩ := Nesting.separates_iff.mp separates
      rw [if_pos separates]
      cases before with
      | nil =>
        have unparted (front back : List Char) : [] ≠ front ++ ',' :: back := by simp
        simp [Nesting.past, separates, unparted]
      | cons d before =>
        refine iff_of_false (by simp) ?_
        rintro ⟨whole, -, unparted⟩
        obtain ⟨rfl, -⟩ := List.cons.inj whole
        have first := unparted [] before rfl
        rw [Nesting.past, List.foldl_nil, separates] at first
        cases first
    · rw [if_neg separates, Option.map_eq_some_iff]
      constructor
      · rintro ⟨⟨front, back⟩, cut, same⟩
        obtain ⟨rfl, rfl⟩ := Prod.mk.inj same
        obtain ⟨rfl, outside, unparted⟩ := ih.mp cut
        refine ⟨rfl, outside, fun start others split => ?_⟩
        -- The character in front separates nothing, and what follows is covered.
        cases start with
        | nil =>
          obtain ⟨rfl, -⟩ := List.cons.inj split
          simpa [Nesting.past] using separates
        | cons d start =>
          obtain ⟨rfl, rfl⟩ := List.cons.inj split
          exact unparted start others rfl
      · rintro ⟨whole, outside, unparted⟩
        cases before with
        | nil =>
          obtain ⟨rfl, -⟩ := List.cons.inj whole
          exact absurd outside separates
        | cons d before =>
          obtain ⟨rfl, rfl⟩ := List.cons.inj whole
          refine ⟨(before, after), ih.mpr ⟨rfl, outside, fun start others split => ?_⟩, rfl⟩
          exact unparted (c :: start) others (by rw [split, List.cons_append])

/-- A whole text is split at its first comma outside brackets and quotes. -/
theorem splitAtComma_iff {text before after : List Char} :
    splitAtComma {} text = some (before, after) ↔
      text = before ++ ',' :: after ∧ EndsOutside before ∧ Unparted before := by
  -- A comma separates exactly where a text ends outside.
  have outside (front : List Char) :
      (Nesting.past {} front).separates ',' = true ↔ EndsOutside front := by
    simp [Nesting.separates_iff, EndsOutside]
  simp only [splitAtComma_eq_some_iff, outside, Unparted, ← Bool.not_eq_true]

end Formula

namespace Clause

open Text (AllBlank AllLayout isBlank isLayout isWordChar skipLayout trim trimEnd)
open Formula (EndsOutside Unparted splitAtComma)

/-- A word: a run of word characters that is not empty. -/
def IsWord (text : List Char) : Prop :=
  text ≠ [] ∧ ∀ c ∈ text, isWordChar c = true

instance (text : List Char) : Decidable (IsWord text) :=
  decidable_of_iff (text ≠ [] ∧ text.all isWordChar = true) (and_congr_right' List.all_eq_true)

/-- How a clause name is written: as a word, or between single quotes that do not belong to it. -/
inductive NameText : List Char → List Char → Prop
  | plain {name : List Char} (word : IsWord name) : NameText name name
  | quoted {name : List Char} (given : name ≠ []) (unquoted : '\x27' ∉ name) :
      NameText ('\x27' :: (name ++ ['\x27'])) name

/-- How a role is written: as it is, which is as a word. -/
inductive RoleText : List Char → List Char → Prop
  | plain {role : List Char} (word : IsWord role) : RoleText role role

/-- How a field is written: in its form, and with layout around it. -/
inductive FieldText (form : List Char → List Char → Prop) : List Char → List Char → Prop
  | spaced {before written field after : List Char} (front : AllLayout before)
      (text : form written field) (back : AllLayout after) :
      FieldText form (before ++ written ++ after) field

/-- How the formula and the justification are written at the end of a line: parted by the first comma
outside brackets and quotes, and followed by the end of the clause. -/
inductive BodyText : List Char → List Char → List Char → Prop
  | parted {before after blanks : List Char} (outside : EndsOutside before)
      (first : Unparted before) (formula : trim before ≠ []) (justification : trim after ≠ [])
      (white : AllBlank blanks) :
      BodyText (before ++ ',' :: (after ++ ')' :: (blanks ++ ['.']))) (trim before) (trim after)

/-- How a clause is written on a line. -/
inductive EntryText : List Char → Entry → Prop
  | line {language : Language} {name role formula justification : List Char}
      {atName atRole atBody : List Char} (first : FieldText NameText atName name)
      (second : FieldText RoleText atRole role) (third : BodyText atBody formula justification) :
      EntryText
        (language.tag.toList ++ '(' :: (atName ++ ',' :: (atRole ++ ',' :: atBody)))
        { language
          name := String.ofList name
          role := String.ofList role
          formula := String.ofList formula
          justification := String.ofList justification }

variable {text found rest front : List Char}

/-- The character expected is the first one. -/
theorem expect?_eq_some_iff {wanted : Char} :
    expect? wanted text = some rest ↔ text = wanted :: rest := by
  -- There is nothing to expect of an empty text.
  cases text with
  | nil => simp [expect?]
  | cons c text => simp [expect?]

/-- A run that is found is not empty, holds accepted characters only, and is as long as it can be. -/
theorem run?_eq_some_iff {test : Char → Bool} :
    run? test text = some (found, rest) ↔
      text = found ++ rest ∧ found ≠ [] ∧ (∀ c ∈ found, test c = true) ∧
        ∀ c ∈ rest.head?, test c = false := by
  have cut : run? test text = some (found, rest) ↔
      (text.takeWhile test = found ∧ text.dropWhile test = rest) ∧ found ≠ [] := by
    unfold run?
    cases taken : text.takeWhile test with
    | nil => simp +contextual [eq_comm]
    | cons c others =>
      -- A run of one character or more is found as it is.
      simp only [Option.some.injEq, Prod.mk.injEq, iff_self_and]
      rintro ⟨rfl, -⟩
      exact List.cons_ne_nil c others
  rw [cut, Text.takeWhile_dropWhile_iff]
  exact ⟨fun ⟨⟨whole, accepted, stops⟩, given⟩ => ⟨whole, given, accepted, stops⟩,
    fun ⟨whole, given, accepted, stops⟩ => ⟨⟨whole, accepted, stops⟩, given⟩⟩

/-- A text names a language exactly if it is its tag. -/
theorem ofTag?_eq_some_iff {tag : String} {language : Language} :
    Language.ofTag? tag = some language ↔ tag = language.tag := by
  constructor
  · intro named
    unfold Language.ofTag? at named
    -- Each language is named by its own tag only.
    split at named
    · exact Option.some.inj named ▸ rfl
    · exact Option.some.inj named ▸ rfl
    · cases named
  · rintro rfl
    exact Language.ofTag?_tag language

/-- The language that is read is that of the tag in front. -/
theorem readLanguage?_eq_some_iff {language : Language} :
    readLanguage? text = some (language, rest) ↔ text = language.tag.toList ++ rest := by
  have three : ∃ x y z, language.tag.toList = [x, y, z] := by
    cases language <;> exact ⟨_, _, _, rfl⟩
  obtain ⟨x, y, z, tag⟩ := three
  rw [tag]
  -- Either tag has three characters, which are the ones that are looked at.
  unfold readLanguage?
  split
  · rename_i a b c others
    have named : String.ofList [a, b, c] = language.tag ↔ [a, b, c] = [x, y, z] := by
      rw [← String.toList_inj, String.toList_ofList, tag]
    simp only [Option.map_eq_some_iff, ofTag?_eq_some_iff, Prod.mk.injEq]
    constructor
    · rintro ⟨found, same, rfl, rfl⟩
      rw [← named.mp same]
      rfl
    · intro whole
      obtain ⟨rfl, rfl, rfl, rfl⟩ : a = x ∧ b = y ∧ c = z ∧ others = rest := by simpa using whole
      exact ⟨language, named.mpr rfl, rfl, rfl⟩
  · -- A text of less than three characters starts with no tag.
    rename_i short
    refine iff_of_false (by simp) fun whole => ?_
    exact short x y z rest whole

/-- A reader of texts in some form: what it finds is written in that form, and whatever is written so
is found if no word character follows. -/
structure Reads (read? : List Char → Option (List Char × List Char))
    (form : List Char → List Char → Prop) : Prop where
  sound {text found rest : List Char} (read : read? text = some (found, rest)) :
    ∃ written, form written found ∧ text = written ++ rest
  complete {written found rest : List Char} (text : form written found)
    (stops : ∀ c ∈ rest.head?, isWordChar c = false) :
    read? (written ++ rest) = some (found, rest)
  /-- What is written starts with something that is not skipped. -/
  shown {written found : List Char} (text : form written found) (rest : List Char) :
    ∀ c ∈ (written ++ rest).head?, isLayout c = false

/-- Layout holds no word character. -/
theorem isWordChar_of_isLayout {c : Char} (layout : isLayout c = true) : isWordChar c = false := by
  rcases Text.isLayout_iff.mp layout with rfl | rfl | rfl | rfl <;> decide

/-- A word does not start with layout. -/
theorem IsWord.shown (word : IsWord text) (rest : List Char) :
    ∀ c ∈ (text ++ rest).head?, isLayout c = false := by
  obtain ⟨given, accepted⟩ := word
  cases text with
  | nil => exact absurd rfl given
  | cons d text =>
    intro c first
    obtain rfl : d = c := by simpa using first
    -- The first character cannot be both.
    refine Bool.eq_false_iff.mpr fun layout => ?_
    have other := isWordChar_of_isLayout layout
    rw [accepted d List.mem_cons_self] at other
    cases other

/-- The longest run of word characters is a word that no word character follows. -/
theorem run?_isWordChar_iff :
    run? isWordChar text = some (found, rest) ↔
      text = found ++ rest ∧ IsWord found ∧ ∀ c ∈ rest.head?, isWordChar c = false := by
  rw [run?_eq_some_iff, IsWord, and_assoc]

/-- Roles are read in their form. -/
theorem reads_role : Reads (run? isWordChar) RoleText where
  sound read := by
    -- A role is what is read of it.
    obtain ⟨whole, word, -⟩ := run?_isWordChar_iff.mp read
    exact ⟨_, .plain word, whole⟩
  complete := by
    rintro _ _ rest ⟨word⟩ stops
    exact run?_isWordChar_iff.mpr ⟨rfl, word, stops⟩
  shown := by
    rintro _ _ ⟨word⟩
    exact word.shown

/-- A text between quotes is read up to the second of them. -/
theorem readName?_quoted_iff :
    readName? ('\x27' :: text) = some (found, rest) ↔
      text = found ++ '\x27' :: rest ∧ found ≠ [] ∧ '\x27' ∉ found := by
  simp only [readName?, Option.bind_eq_bind, Option.bind_eq_some_iff, expect?_eq_some_iff,
    Option.pure_def, Option.some.injEq, Prod.mk.injEq, Prod.exists, run?_eq_some_iff]
  constructor
  · rintro ⟨name, behind, ⟨rfl, given, unquoted, -⟩, after, rfl, rfl, rfl⟩
    refine ⟨rfl, given, fun member => ?_⟩
    simpa using unquoted _ member
  · rintro ⟨rfl, given, unquoted⟩
    -- The run stops at the quote, which no earlier character is.
    refine ⟨found, _, ⟨rfl, given, fun c member => ?_, by simp⟩, rest, rfl, rfl, rfl⟩
    simpa using ne_of_mem_of_not_mem member unquoted

/-- A text that does not start with a quote is read as a word. -/
theorem readName?_plain (plain : ∀ inner, text ≠ '\x27' :: inner) :
    readName? text = run? isWordChar text := by
  unfold readName?
  -- The other way of writing a name needs a quote in front.
  split
  · exact absurd rfl (plain _)
  · rfl

/-- Names are read in their form. -/
theorem reads_name : Reads readName? NameText where
  sound {text found rest} read := by
    -- The reader decides by the first character whether a name is quoted.
    by_cases quoted : ∃ inner, text = '\x27' :: inner
    · obtain ⟨inner, rfl⟩ := quoted
      obtain ⟨rfl, given, unquoted⟩ := readName?_quoted_iff.mp read
      exact ⟨_, .quoted given unquoted, by simp⟩
    · rw [readName?_plain fun inner same => quoted ⟨inner, same⟩] at read
      obtain ⟨whole, word, -⟩ := run?_isWordChar_iff.mp read
      exact ⟨_, .plain word, whole⟩
  complete {written found rest} text stops := by
    cases text with
    | plain word =>
      -- A quote is no word character, so that the word is not taken for a quoted name.
      have plain (inner : List Char) : written ++ rest ≠ '\x27' :: inner := by
        obtain ⟨d, others, rfl⟩ := List.exists_cons_of_ne_nil word.1
        intro same
        obtain ⟨rfl, -⟩ := List.cons.inj same
        exact absurd (word.2 _ List.mem_cons_self) (by decide)
      rw [readName?_plain plain]
      exact run?_isWordChar_iff.mpr ⟨rfl, word, stops⟩
    | quoted given unquoted =>
      rw [List.cons_append]
      exact readName?_quoted_iff.mpr ⟨by simp, given, unquoted⟩
  shown text := by
    cases text with
    | plain word => exact word.shown
    | quoted => simp [isLayout]

/-- A field and the comma behind it are read exactly if the field is written in its form. -/
theorem Reads.field_iff {read? : List Char → Option (List Char × List Char)}
    {form : List Char → List Char → Prop} (reads : Reads read? form) :
    (∃ behind, field? read? text = some (found, behind) ∧ expect? ',' behind = some rest) ↔
      ∃ field, FieldText form field found ∧ text = field ++ ',' :: rest := by
  simp only [field?, Option.bind_eq_bind, Option.bind_eq_some_iff, expect?_eq_some_iff,
    Option.pure_def, Option.some.injEq, Prod.mk.injEq, Prod.exists]
  constructor
  · rintro ⟨_, ⟨_, behind, read, rfl, skipped⟩, rfl⟩
    obtain ⟨written, form, whole⟩ := reads.sound read
    -- Layout is skipped in front of the field and behind it.
    obtain ⟨⟨before, front, rfl⟩, -⟩ := Text.skipLayout_eq_iff.mp whole
    obtain ⟨⟨after, back, rfl⟩, -⟩ := Text.skipLayout_eq_iff.mp skipped
    exact ⟨_, .spaced front form back, by simp⟩
  · rintro ⟨_, @⟨before, written, _, after, front, form, back⟩, rfl⟩
    have behind : skipLayout (after ++ ',' :: rest) = ',' :: rest :=
      Text.skipLayout_eq_iff.mpr ⟨⟨after, back, rfl⟩, by simp [isLayout]⟩
    have start : skipLayout (before ++ (written ++ (after ++ ',' :: rest))) =
        written ++ (after ++ ',' :: rest) :=
      Text.skipLayout_eq_iff.mpr ⟨⟨before, front, rfl⟩, reads.shown form _⟩
    -- Neither layout nor a comma goes on with a word.
    have stops : ∀ c ∈ (after ++ ',' :: rest).head?, isWordChar c = false := by
      cases after with
      | nil =>
        have comma : isWordChar ',' = false := by decide
        simp [comma]
      | cons d after =>
        intro c first
        obtain rfl : d = c := by simpa using first
        exact isWordChar_of_isLayout (back d List.mem_cons_self)
    refine ⟨_, ⟨found, _, ?_, rfl, behind⟩, rfl⟩
    simp only [List.append_assoc]
    rw [start]
    exact reads.complete form stops

/-- A text without its end is what stands before that end. -/
theorem dropEnd?_eq_some_iff {wanted : Char} :
    dropEnd? wanted text = some front ↔ text = front ++ [wanted] := by
  unfold dropEnd?
  -- The last character is looked at, and taken off if it is the wanted one.
  constructor
  · intro dropped
    split at dropped
    · rename_i last
      obtain rfl := Option.some.inj dropped
      obtain ⟨before, rfl⟩ := List.getLast?_eq_some_iff.mp last
      rw [List.dropLast_concat]
    · cases dropped
  · rintro rfl
    simp

/-- A text without its end and the blanks behind it is what stands before that end. -/
theorem dropEnd?_trimEnd_iff {wanted : Char} (shown : isBlank wanted = false) :
    dropEnd? wanted (trimEnd text) = some front ↔
      ∃ blanks, AllBlank blanks ∧ text = front ++ wanted :: blanks := by
  rw [dropEnd?_eq_some_iff, Text.trimEnd_eq_iff]
  simp [shown]

/-- The formula and the justification of a line without blanks behind it are read exactly if they are
written in their form. -/
theorem readBody?_eq_some_iff {formula justification : List Char}
    (ended : ∀ c ∈ text.getLast?, isBlank c = false) :
    readBody? text = some (formula, justification) ↔ BodyText text formula justification := by
  have trimmed : trimEnd text = text :=
    Text.trimEnd_eq_iff.mpr ⟨⟨[], by simp [AllBlank], by simp⟩, ended⟩
  simp only [readBody?, trimmed, Option.bind_eq_bind, Option.bind_eq_some_iff,
    dropEnd?_eq_some_iff, dropEnd?_trimEnd_iff (show isBlank ')' = false by decide),
    Prod.exists, Formula.splitAtComma_iff]
  constructor
  · -- The full stop and the parenthesis are off, and the comma is found.
    rintro ⟨_, rfl, _, ⟨blanks, white, rfl⟩, before, after, ⟨rfl, outside, first⟩, read⟩
    split at read
    · cases read
    · rename_i filled
      obtain ⟨rfl, rfl⟩ := Prod.mk.inj (Option.some.inj read)
      obtain ⟨given, justified⟩ : trim before ≠ [] ∧ trim after ≠ [] := by simpa using filled
      have whole := BodyText.parted outside first given justified white
      simpa using whole
  · -- What is written in its form comes apart at the same places.
    rintro @⟨before, after, blanks, outside, first, given, justified, white⟩
    refine ⟨before ++ ',' :: (after ++ ')' :: blanks), by simp, before ++ ',' :: after,
      ⟨blanks, white, by simp⟩, before, after, ⟨rfl, outside, first⟩, ?_⟩
    simp [given, justified]

/-- A line without blanks behind it has exactly the entry that is written on it. -/
theorem readEntry?_eq_some_iff {entry : Entry} (ended : ∀ c ∈ text.getLast?, isBlank c = false) :
    readEntry? text = some entry ↔ EntryText text entry := by
  -- What stands behind a comma ends like the whole line.
  have tail {front back : List Char} (split : text = front ++ ',' :: back) :
      ∀ c ∈ back.getLast?, isBlank c = false := by
    intro c last
    refine ended c ?_
    obtain ⟨start, rfl⟩ := List.getLast?_eq_some_iff.mp last
    exact List.getLast?_eq_some_iff.mpr ⟨front ++ ',' :: start, by simp [split]⟩
  simp only [Option.bind_eq_bind, readEntry?, Option.bind_eq_some_iff, readLanguage?_eq_some_iff,
    expect?_eq_some_iff, Option.pure_def, Option.some.injEq, Prod.exists]
  constructor
  · rintro ⟨language, _, whole, inner, rfl, name, behind, named, others, rfl, role, left, played,
      atBody, rfl, formula, justification, body, rfl⟩
    obtain ⟨atName, first, rfl⟩ := reads_name.field_iff.mp ⟨_, named, expect?_eq_some_iff.mpr rfl⟩
    obtain ⟨atRole, second, rfl⟩ := reads_role.field_iff.mp ⟨_, played, expect?_eq_some_iff.mpr rfl⟩
    have split : text =
        (language.tag.toList ++ '(' :: (atName ++ ',' :: atRole)) ++ ',' :: atBody := by
      simp [whole]
    have third := (readBody?_eq_some_iff (tail split)).mp body
    exact whole ▸ .line first second third
  · -- What is written is read field by field, each up to its comma.
    rintro @⟨language, name, role, formula, justification, atName, atRole, atBody, first, second,
      third⟩
    obtain ⟨_, named, behind⟩ := reads_name.field_iff.mpr ⟨atName, first, rfl⟩
    obtain rfl := expect?_eq_some_iff.mp behind
    obtain ⟨_, played, left⟩ := reads_role.field_iff.mpr ⟨atRole, second, rfl⟩
    obtain rfl := expect?_eq_some_iff.mp left
    have split : language.tag.toList ++ '(' :: (atName ++ ',' :: (atRole ++ ',' :: atBody)) =
        (language.tag.toList ++ '(' :: (atName ++ ',' :: atRole)) ++ ',' :: atBody := by
      simp
    have body := (readBody?_eq_some_iff (tail split)).mpr third
    exact ⟨language, _, rfl, _, rfl, name, _, named, _, rfl, role, _, played, _, rfl, formula,
      justification, body, rfl⟩

/-- A line that holds a clause starts with the tag of a language, so that it is not passed over. -/
theorem EntryText.isSilent_eq_false {entry : Entry} (written : EntryText text entry) :
    isSilent text = false := by
  cases written with
  | @line language => cases language <;> rfl

/-- A trimmed text that is blank or a comment. -/
def IsBlankOrComment (text : List Char) : Prop :=
  text = [] ∨ text.head? = some '%' ∨ text.head? = some '#'

/-- The lines that are passed over are the blank ones and the comments. -/
theorem isSilent_iff : isSilent text = true ↔ IsBlankOrComment text := by
  cases text <;> simp [isSilent, IsBlankOrComment]

/-- An entry is read from a line exactly if it is written on the trimmed line. -/
theorem readLine_eq_entry_iff {line : String} {entry : Entry} :
    readLine line = .ok (some entry) ↔ EntryText (trim line.toList) entry := by
  have ended : ∀ c ∈ (trim line.toList).getLast?, isBlank c = false :=
    (Text.trimEnd_eq_iff.mp rfl).2
  have whole : readEntry? (trim line.toList) = some entry ↔ EntryText (trim line.toList) entry :=
    readEntry?_eq_some_iff ended
  unfold readLine
  by_cases silent : isSilent (trim line.toList) = true
  · -- A line that is passed over does not start with a tag.
    have unwritten : ¬ EntryText (trim line.toList) entry :=
      fun written => Bool.false_ne_true (written.isSilent_eq_false.symm.trans silent)
    simp [silent, unwritten]
  · rw [← whole]
    cases read : readEntry? (trim line.toList) <;> simp [silent, read]

/-- Lines are read exactly as their grammar derives them. A line is passed over if it is blank or a
comment, holds a clause if one is written on it, and is malformed in every other case. -/
theorem readLine_derives (line : String) :
    (readLine line = .ok none ↔ IsBlankOrComment (trim line.toList)) ∧
    (∀ entry, readLine line = .ok (some entry) ↔ EntryText (trim line.toList) entry) ∧
    ∀ fault, readLine line = .error fault ↔
      fault = .malformedLine line ∧ ¬ IsBlankOrComment (trim line.toList) ∧
        ∀ entry, ¬ EntryText (trim line.toList) entry := by
  have entries (entry : Entry) : readLine line = .ok (some entry) ↔
      EntryText (trim line.toList) entry := readLine_eq_entry_iff
  simp only [← entries, ← isSilent_iff, readLine]
  -- What the reader answers is one of the three, and says which.
  by_cases silent : isSilent (trim line.toList) = true
  · simp [silent]
  · cases readEntry? (trim line.toList) <;> simp [silent, eq_comm]

end Clause

end Retrace
