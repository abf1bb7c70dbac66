import Retrace.Text.Letter
import Retrace.Text.VisibleTable

/-!
A text shown between double quotes for a diagnostic: marks that would end or bend the quotation are
escaped, and so is every character that would not be seen.
-/

namespace Retrace.Text

/-- A visible character shows a mark of its own; the plain space counts as one. -/
def isVisible (c : Char) : Bool :=
  if c.toNat < 0x80 then 0x20 ≤ c.toNat && c.toNat < 0x7F else inRanges visibleRanges c.toNat

/-- The written form of one character between double quotes. -/
def quotedChar (c : Char) : List Char :=
  match c with
  | '\x00' => ['\\', '0']
  | '\t' => ['\\', 't']
  | '\r' => ['\\', 'r']
  | '\n' => ['\\', 'n']
  | '\\' => ['\\', '\\']
  | '"' => ['\\', '"']
  | c =>
    if isVisible c then [c]
    else ['\\', 'u', '\x7b'] ++ Nat.toDigits 16 c.toNat ++ ['\x7d']

/-- A text between double quotes. -/
def quoted (text : List Char) : List Char :=
  '"' :: text.flatMap quotedChar ++ ['"']

end Retrace.Text
