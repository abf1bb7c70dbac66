import Retrace.Text.LetterTable
import Retrace.Text.NumeralTable

/-!
Letters and numerals of any script. Characters below U+0080 are classified by the core library's
own predicates, all others by tables of ranges.
-/

namespace Retrace.Text

/-- Whether a code point lies in one of several closed ranges. -/
def inRanges (ranges : List (Nat × Nat)) (code : Nat) : Bool :=
  ranges.any fun (first, last) => first ≤ code && code ≤ last

/-- A letter is a character with the Unicode property Alphabetic. -/
def isLetter (c : Char) : Bool :=
  if c.toNat < 0x80 then c.isAlpha else inRanges letterRanges c.toNat

/-- A numeral is a character of the Unicode categories Nd, Nl and No. -/
def isNumeral (c : Char) : Bool :=
  if c.toNat < 0x80 then c.isDigit else inRanges numeralRanges c.toNat

/-- An alphanumeric character is a letter or a numeral. -/
def isAlphanumeric (c : Char) : Bool :=
  isLetter c || isNumeral c

/-- A word character is alphanumeric or an underscore. -/
def isWordChar (c : Char) : Bool :=
  isAlphanumeric c || c == '_'

end Retrace.Text
