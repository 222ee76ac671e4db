import Directory.Text.Blank
import Directory.Text.DecimalDigit

/-!
# Numerals

The reading of an integer from a text: white space around it, an optional sign, and decimal digits
with single underscores allowed between them. A numeral has a bounded number of digits, both when it
is read and when it is written.
-/

namespace Directory

/-- The most digits a numeral may have. -/
def maxNumeralDigits : Nat := 4300

/-- The digits of a numeral, the underscores between them removed. `between` holds just after a
digit, where an underscore may follow. -/
def numeralDigits? (digit? : α → Option Nat) (isUnderscore : α → Bool) :
    Bool → List α → Option (List Nat)
  | between, [] => if between then some [] else none
  | between, c :: cs =>
    match digit? c with
    | some d => (numeralDigits? digit? isUnderscore true cs).map (d :: ·)
    | none =>
      if between && isUnderscore c then numeralDigits? digit? isUnderscore false cs else none

/-- The number that a row of digits stands for. -/
def numberOfDigits (digits : List Nat) : Nat :=
  digits.foldl (fun n d => 10 * n + d) 0

/-- An unsigned numeral. -/
def natOfNumeral? (digit? : α → Option Nat) (isUnderscore : α → Bool) (cs : List α) :
    Option Nat := do
  let digits ← numeralDigits? digit? isUnderscore false cs
  if digits.length ≤ maxNumeralDigits then some (numberOfDigits digits) else none

/-- An integer written in the decimal digits of any script. White space around it is dropped, but
not information separators. -/
def intOfText? (s : String) : Option Int :=
  let read cs := (natOfNumeral? digitValue? (· == '_') cs).map Int.ofNat
  match ((s.toList.dropWhile isSpace).reverse.dropWhile isSpace).reverse with
  | '-' :: cs => (read cs).map (- ·)
  | '+' :: cs => read cs
  | cs => read cs

/-- The digits of an integer with its sign, unless there are too many of them. -/
def intText? (n : Int) : Option String :=
  let digits := Nat.toDigits 10 n.natAbs
  if digits.length ≤ maxNumeralDigits then
    some (String.ofList (if n < 0 then '-' :: digits else digits))
  else none

/-- A blank byte: an ASCII space, tab, line feed, vertical tab, form feed or carriage return. -/
def isBlankByte (b : UInt8) : Bool :=
  b == 0x20 || (0x09 ≤ b && b ≤ 0x0d)

/-- An integer written in ASCII digits. -/
def intOfBytes? (bs : List UInt8) : Option Int :=
  let read bs := (natOfNumeral? (fun b : UInt8 => asciiDigitValue? b.toNat) (· == 0x5f) bs).map
    Int.ofNat
  match ((bs.dropWhile isBlankByte).reverse.dropWhile isBlankByte).reverse with
  | 0x2d :: bs => (read bs).map (- ·)
  | 0x2b :: bs => read bs
  | bs => read bs

end Directory
