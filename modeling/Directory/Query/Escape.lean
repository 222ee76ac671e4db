import Directory.Value.Text

/-!
# Escaping

The characters that have a meaning in a filter string, the backslash that escapes them, and NUL are
written as a backslash and two hexadecimal digits. Bytes are written so in their entirety.
-/

namespace Directory

/-- The characters that cannot stand for themselves in a value. -/
def isReserved (c : Char) : Bool :=
  c == '\\' || c == '*' || c == '(' || c == ')' || c == '\x00'

/-- A number below 256 as an escape. -/
def escapeCode (n : Nat) : List Char :=
  '\\' :: hexDigits 2 n

/-- A text with every reserved character escaped. -/
def escapeChars (cs : List Char) : List Char :=
  cs.flatMap fun c => if isReserved c then escapeCode c.toNat else [c]

/-- Bytes, every one of them escaped. -/
def escapeBytes (bs : List UInt8) : List Char :=
  bs.flatMap fun b => escapeCode b.toNat

/-- The text of a value, escaped for use in a filter string. -/
def escape : Value → Except Failure String
  | .bytes bs => .ok (String.ofList (escapeBytes bs))
  | value => return String.ofList (escapeChars (← value.text).toList)

end Directory
