import Directory.Binary64.Basic

/-!
# Reading binary64 numbers

The number nearest to a decimal text with an optional sign, fraction and exponent.
-/

namespace Directory.Binary64

/-- The leading digits of a text, and the rest. -/
def splitDigits (cs : List Char) : List Char × List Char :=
  (cs.takeWhile Char.isDigit, cs.dropWhile Char.isDigit)

/-- The number that a row of ASCII digits stands for. -/
def natOfDigits (digits : List Char) : Nat :=
  digits.foldl (fun n c => 10 * n + (c.toNat - 0x30)) 0

/-- An exponent mark with a signed exponent, or nothing. -/
def readExponent? : List Char → Option Int
  | [] => some 0
  | 'e' :: cs =>
    match cs with
    | '-' :: ds => if ds.all Char.isDigit && !ds.isEmpty then some (-natOfDigits ds) else none
    | '+' :: ds => if ds.all Char.isDigit && !ds.isEmpty then some (natOfDigits ds) else none
    | ds => if ds.all Char.isDigit && !ds.isEmpty then some (natOfDigits ds) else none
  | _ :: _ => none

/-- A number without its sign. -/
def readMagnitude? (negative : Bool) (cs : List Char) : Option Binary64 :=
  if cs = "inf".toList then some (infinity negative)
  else if cs = "nan".toList then some nan
  else do
    let (whole, rest) := splitDigits cs
    let (fraction, rest) :=
      match rest with
      | '.' :: rest => splitDigits rest
      | rest => ([], rest)
    if whole.isEmpty && fraction.isEmpty then none
    let exponent ← readExponent? rest
    some (ofDecimal negative (natOfDigits (whole ++ fraction)) (exponent - fraction.length))

/-- The number that a text stands for. -/
def ofText? (s : String) : Option Binary64 :=
  match s.toList with
  | '-' :: cs => readMagnitude? true cs
  | cs => readMagnitude? false cs

end Directory.Binary64
