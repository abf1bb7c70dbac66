/-!
What a terminal shows of a text. Control characters show nothing, and neither do the sequences and
the strings that an escape character starts.
-/

namespace Retrace.Text

/-- Where a terminal stands in a text. -/
inductive Control where
  /-- In plain text. -/
  | plain
  /-- Directly after an escape character. -/
  | escape
  /-- In a sequence that the first character from the code `final` on ends. -/
  | sequence (final : Nat)
  /-- Before a device string, where no parameter may lie above the code `last`. -/
  | header (last : Nat)
  /-- In a command to the system, which a bell ends. -/
  | command
  /-- In a string for a device or an application, which a string terminator ends. -/
  | string
  deriving DecidableEq, Repr

/-- Whether a control character moves the cursor like white space. -/
def movesCursor (c : Char) : Bool :=
  c == '\t' || c == '\n' || c == '\x0c' || c == '\r'

/-- Whether a character ends a string. The terminator is the octet `9C`, in whichever character. -/
def endsString (c : Char) : Bool :=
  (String.utf8EncodeChar c).contains 0x9C

/-- Where a terminal stands after a character that it does not show. -/
def Control.next (control : Control) (c : Char) : Control :=
  if c = '\x1b' then .escape
  else if c = '\x18' ∨ c = '\x1a' then .plain
  else
    match control with
    | .plain => .plain
    | .escape =>
      if c = '[' then .sequence 0x40
      else if c = 'P' then .header 0x3F
      else if c = ']' then .command
      else if c = 'X' ∨ c = '^' ∨ c = '_' then .string
      else if 0x20 ≤ c.toNat ∧ c.toNat < 0x30 then .sequence 0x30
      else if 0x30 ≤ c.toNat ∧ c.toNat < 0x7F then .plain
      else .escape
    | .sequence final => if final ≤ c.toNat ∧ c.toNat < 0x7F then .plain else .sequence final
    | .header last =>
      -- A private mark may only come first, and no parameter after an intermediate character.
      if 0x20 ≤ c.toNat ∧ c.toNat < 0x30 then .header 0x2F
      else if 0x30 ≤ c.toNat ∧ c.toNat ≤ last then .header 0x3B
      else if 0x30 ≤ c.toNat ∧ c.toNat < 0x7F then .string
      else .header last
    | .command => if c = '\x07' then .plain else .command
    | .string => if endsString c then .plain else .string

/-- Whether a terminal shows a character. -/
def Control.shows (control : Control) (c : Char) : Bool :=
  match control with
  | .plain => movesCursor c || (0x20 ≤ c.toNat && c != '\x7f')
  | .escape => movesCursor c
  | .sequence _ => movesCursor c
  | .header _ => false
  | .command => false
  | .string => false

/-- What a terminal shows of a text; after a character shown it stands in plain text. -/
def shownFrom (control : Control) : List Char → List Char
  | [] => []
  | c :: rest =>
    if control.shows c then c :: shownFrom .plain rest else shownFrom (control.next c) rest

/-- What a terminal shows of a text held as a string. -/
def plain (text : String) : String :=
  String.ofList (shownFrom .plain text.toList)

end Retrace.Text
