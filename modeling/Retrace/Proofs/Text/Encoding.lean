import Retrace.Proofs.Text.Lines

/-!
Texts as UTF-8 bytes. Line ends are single bytes that stand in no other character, so a text may be
cut into lines before or after it is encoded.
-/

namespace Retrace.Text

/-- The UTF-8 bytes of a text. -/
def encode (text : List Char) : List UInt8 :=
  text.flatMap String.utf8EncodeChar

/-- The bytes of texts in a row are those of each. -/
@[simp] theorem encode_append (first second : List Char) :
    encode (first ++ second) = encode first ++ encode second :=
  List.flatMap_append

/-- Only the empty text has no bytes. -/
@[simp] theorem encode_eq_nil {text : List Char} : encode text = [] ↔ text = [] := by
  cases text <;> simp [encode, String.utf8EncodeChar_ne_nil]

/-- The UTF-8 bytes of a string. -/
def bytesOf (text : String) : List UInt8 :=
  text.toUTF8.data.toList

/-- The bytes of a string are those of its characters. -/
theorem bytesOf_eq_encode (text : String) : bytesOf text = encode text.toList := by
  obtain ⟨characters, rfl⟩ : ∃ characters, text = String.ofList characters :=
    ⟨text.toList, String.ofList_toList.symm⟩
  simp [bytesOf, encode, List.utf8Encode]

/-- The bytes of strings in a row are those of each. -/
theorem bytesOf_append (first second : String) :
    bytesOf (first ++ second) = bytesOf first ++ bytesOf second := by
  simp only [bytesOf_eq_encode, String.toList_append, encode_append]

/-- Bytes are read as a string exactly if they are its bytes. -/
theorem fromUTF8?_eq_some_iff {bytes : List UInt8} {text : String} :
    String.fromUTF8? ⟨bytes.toArray⟩ = some text ↔ bytes = bytesOf text := by
  unfold String.fromUTF8?
  -- Bytes are read unchanged if they are valid.
  split
  · rename_i valid
    constructor
    · rintro ⟨⟩
      rfl
    · rintro rfl
      rfl
  · rename_i invalid
    -- The bytes of a string are valid.
    refine iff_of_false (by simp) ?_
    rintro rfl
    exact invalid text.isValidUTF8

/-- Strings of the same bytes are the same. -/
theorem bytesOf_inj {first second : String} : bytesOf first = bytesOf second ↔ first = second := by
  refine ⟨fun same => Option.some.inj ?_, fun same => by rw [same]⟩
  -- Either string is read from the bytes.
  rw [← fromUTF8?_eq_some_iff.mpr (rfl : bytesOf first = _), fromUTF8?_eq_some_iff.mpr same]

/-- An ASCII character is encoded by its number. -/
theorem utf8EncodeChar_of_ascii {c : Char} (ascii : c.toNat < 128) :
    String.utf8EncodeChar c = [UInt8.ofNat c.toNat] := by
  have small : c.val.toNat ≤ 127 := Nat.le_of_lt_succ ascii
  rw [String.utf8EncodeChar, if_pos small]
  rfl

/-- Any other character is encoded by bytes that are no ASCII. -/
theorem le_of_mem_utf8EncodeChar {c : Char} {byte : UInt8} (large : 128 ≤ c.toNat)
    (member : byte ∈ String.utf8EncodeChar c) : 128 ≤ byte.toNat := by
  have above : ¬ c.val.toNat ≤ 127 := Nat.not_le_of_lt large
  rw [String.utf8EncodeChar, if_neg above] at member
  generalize c.val.toNat = code at member
  -- To every byte 128 at least is added, and none of the sums exceeds a byte.
  split at member
  · simp only [List.mem_cons, List.not_mem_nil, or_false] at member
    rcases member with rfl | rfl <;> rw [UInt8.toNat_ofNat'] <;> omega
  · split at member
    · simp only [List.mem_cons, List.not_mem_nil, or_false] at member
      rcases member with rfl | rfl | rfl <;> rw [UInt8.toNat_ofNat'] <;> omega
    · simp only [List.mem_cons, List.not_mem_nil, or_false] at member
      rcases member with rfl | rfl | rfl | rfl <;> rw [UInt8.toNat_ofNat'] <;> omega

/-- The byte of an ASCII character stands in the encoding of no other character. -/
theorem mem_utf8EncodeChar {c d : Char} (ascii : d.toNat < 128) :
    UInt8.ofNat d.toNat ∈ String.utf8EncodeChar c ↔ c = d := by
  have number (e : Char) (small : e.toNat < 128) : (UInt8.ofNat e.toNat).toNat = e.toNat := by
    rw [UInt8.toNat_ofNat']
    omega
  constructor
  · intro member
    by_cases small : c.toNat < 128
    · -- Both characters are encoded by their numbers.
      rw [utf8EncodeChar_of_ascii small, List.mem_singleton] at member
      have same := congrArg UInt8.toNat member
      rw [number c small, number d ascii] at same
      exact Char.toNat_inj.mp same.symm
    · -- The bytes of any other character are at least 128.
      have above := le_of_mem_utf8EncodeChar (Nat.le_of_not_lt small) member
      rw [number d ascii] at above
      omega
  · rintro rfl
    simp [utf8EncodeChar_of_ascii ascii]

/-- The byte of an ASCII character stands in a text exactly if the character does. -/
theorem mem_encode {text : List Char} {d : Char} (ascii : d.toNat < 128) :
    UInt8.ofNat d.toNat ∈ encode text ↔ d ∈ text := by
  simp [encode, List.mem_flatMap, mem_utf8EncodeChar ascii]

/-- A text ends with the byte of an ASCII character exactly if it ends with the character. -/
theorem getLast?_encode {text : List Char} {d : Char} (ascii : d.toNat < 128) :
    (encode text).getLast? = some (UInt8.ofNat d.toNat) ↔ text.getLast? = some d := by
  rcases List.eq_nil_or_concat text with rfl | ⟨front, c, rfl⟩
  · simp [encode]
  · -- The last byte is one of the last character.
    have last : encode [c] = String.utf8EncodeChar c := List.append_nil _
    rw [List.concat_eq_append, encode_append, last,
      List.getLast?_append_of_ne_nil _ String.utf8EncodeChar_ne_nil, List.getLast?_concat,
      Option.some_inj]
    constructor
    · intro ended
      exact (mem_utf8EncodeChar ascii).mp (List.mem_of_getLast? ended)
    · rintro rfl
      rw [utf8EncodeChar_of_ascii ascii]
      rfl

/-- A text that is cut into lines is cut into the same lines once it is encoded. -/
theorem Cut.encode {text : List Char} {pieces : List (List Char)} (cut : Cut '\n' '\r' text pieces) :
    Cut 10 13 (Text.encode text) (pieces.map Text.encode) := by
  have whole {line : List Char} (fits : '\n' ∉ line) : (10 : UInt8) ∉ Text.encode line :=
    fun member => fits ((mem_encode (d := '\n') (by decide)).mp member)
  have feed : Text.encode ['\n'] = [10] := rfl
  have ret : Text.encode ['\r', '\n'] = [13, 10] := rfl
  -- The line ends are encoded by themselves, and what stands between them has none.
  induction cut with
  | nil => exact .nil
  | last nonempty fits =>
    exact .last (mt encode_eq_nil.mp nonempty) (whole fits)
  | @fed line rest _ fits plain _ ih =>
    have unreturned : (Text.encode line).getLast? ≠ some 13 := fun ended =>
      plain ((getLast?_encode (d := '\r') (by decide)).mp ended)
    rw [← List.singleton_append, encode_append, encode_append, feed]
    exact .fed (whole fits) unreturned ih
  | @returned line rest _ fits _ ih =>
    -- A return in front of the feed belongs to the line end.
    have split : line ++ '\r' :: '\n' :: rest = line ++ (['\r', '\n'] ++ rest) := rfl
    rw [split, encode_append, encode_append, ret]
    exact .returned (whole fits) ih

/-- The lines of an encoded text are the encoded lines of the text. -/
theorem byteLines_encode (text : List Char) :
    byteLines (encode text) = (charLines text).map encode :=
  (cut_lines (by decide) text).encode.eq_lines (by decide)

/-- Bytes that are cut into encoded lines are an encoded text. -/
theorem Cut.exists_encode {content : List UInt8} {pieces : List (List UInt8)}
    (cut : Cut 10 13 content pieces) (encoded : ∀ piece ∈ pieces, ∃ line, piece = Text.encode line) :
    ∃ text, content = Text.encode text := by
  -- The ends of lines are encoded by one byte each.
  have feed : [10] = Text.encode ['\n'] := rfl
  have ret : [13, 10] = Text.encode ['\r', '\n'] := rfl
  -- Each line is put before what the others decode to, with its end between them.
  induction cut with
  | nil => exact ⟨[], rfl⟩
  | last _ _ => exact encoded _ List.mem_cons_self
  | @fed _ rest _ _ _ _ ih =>
    obtain ⟨line, rfl⟩ := encoded _ List.mem_cons_self
    obtain ⟨text, rfl⟩ := ih fun piece member => encoded piece (List.mem_cons_of_mem _ member)
    exact ⟨line ++ (['\n'] ++ text), by rw [encode_append, encode_append, ← feed]; rfl⟩
  | @returned _ rest _ _ _ ih =>
    obtain ⟨line, rfl⟩ := encoded _ List.mem_cons_self
    obtain ⟨text, rfl⟩ := ih fun piece member => encoded piece (List.mem_cons_of_mem _ member)
    exact ⟨line ++ (['\r', '\n'] ++ text), by rw [encode_append, encode_append, ← ret]; rfl⟩

/-- The lines of the bytes of a string are the bytes of its lines. -/
theorem byteLines_bytesOf (text : String) :
    byteLines (bytesOf text) = ((charLines text.toList).map String.ofList).map bytesOf := by
  rw [bytesOf_eq_encode, byteLines_encode, List.map_map]
  refine List.map_congr_left fun line _ => ?_
  rw [Function.comp_apply, bytesOf_eq_encode, String.toList_ofList]

/-- Pieces of bytes are read as the given strings, up to a first one that is no string. -/
def DecodesUpTo (pieces : List (List UInt8)) (texts : List String) : Prop :=
  ∃ bad others, pieces = texts.map bytesOf ++ bad :: others ∧
    String.fromUTF8? ⟨bad.toArray⟩ = none

/-- Pieces of bytes are all read as strings, or there is a first one that is none. -/
theorem decodes_or_decodesUpTo (pieces : List (List UInt8)) :
    (∃ texts : List String, pieces = texts.map bytesOf) ∨ ∃ texts, DecodesUpTo pieces texts := by
  induction pieces with
  | nil => exact .inl ⟨[], rfl⟩
  | cons piece pieces ih =>
    -- The first piece that is no string ends the reading.
    cases decoded : String.fromUTF8? ⟨piece.toArray⟩ with
    | none => exact .inr ⟨[], piece, pieces, rfl, decoded⟩
    | some text =>
      obtain rfl := fromUTF8?_eq_some_iff.mp decoded
      rcases ih with ⟨texts, rfl⟩ | ⟨texts, bad, others, rfl, undecoded⟩
      · exact .inl ⟨text :: texts, rfl⟩
      · exact .inr ⟨text :: texts, bad, others, rfl, undecoded⟩

/-- Bytes are no string exactly if one of their lines is none. -/
theorem fromUTF8?_eq_none_iff (content : List UInt8) :
    String.fromUTF8? ⟨content.toArray⟩ = none ↔
      ∃ texts, DecodesUpTo (byteLines content) texts := by
  constructor
  · intro undecoded
    refine (decodes_or_decodesUpTo (byteLines content)).resolve_left ?_
    rintro ⟨texts, lines⟩
    -- Lines that are all strings would make the content one.
    obtain ⟨text, rfl⟩ := (cut_lines (by decide) content).exists_encode fun piece member => by
      change piece ∈ byteLines content at member
      rw [lines] at member
      obtain ⟨line, -, rfl⟩ := List.mem_map.mp member
      exact ⟨line.toList, bytesOf_eq_encode line⟩
    have decoded : String.fromUTF8? ⟨(encode text).toArray⟩ = some (String.ofList text) := by
      rw [fromUTF8?_eq_some_iff, bytesOf_eq_encode, String.toList_ofList]
    rw [decoded] at undecoded
    cases undecoded
  · rintro ⟨texts, bad, others, lines, undecoded⟩
    cases decoded : String.fromUTF8? ⟨content.toArray⟩ with
    | none => rfl
    | some text =>
      -- The lines of a string are strings.
      obtain rfl := fromUTF8?_eq_some_iff.mp decoded
      have member : bad ∈ byteLines (bytesOf text) := by simp [lines]
      rw [byteLines_bytesOf] at member
      obtain ⟨line, -, rfl⟩ := List.mem_map.mp member
      rw [fromUTF8?_eq_some_iff.mpr rfl] at undecoded
      cases undecoded

end Retrace.Text
