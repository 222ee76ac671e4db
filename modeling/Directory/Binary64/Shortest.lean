import Directory.Binary64.Basic

/-!
# The shortest text of a binary64 number

The fewest decimal digits that read back as the number, and of those the nearest to it. Numbers from
`0.0001` up to below `10 ^ 16` are written with a point, all others with an exponent of at least two
digits.
-/

namespace Directory.Binary64

/-- A decimal: the number `digits * 10 ^ exponent`. -/
structure Decimal where
  digits : Nat
  exponent : Int

/-- The number of decimal places before the point of a positive fraction; zero or negative if the
fraction starts with zeros after the point. -/
def placesBeforePoint (num den : Nat) : Int :=
  if den ≤ num then (Nat.toDigits 10 (num / den)).length
  else
    -- The least positive number is above 10 ^ (-324).
    1 - Int.ofNat (((List.range 325).find? fun j => den ≤ num * Nat.pow 10 j).getD 325)

/-- The numbers that round to a positive number: a fraction `c / (4 * unit)` reads back as the
number if `c` is between the two bounds, ends included iff the significand is even. -/
structure Interval where
  low : Nat
  high : Nat
  closed : Bool

/-- The interval of a positive number, in quarters of its last significant bit. Just above a power
of two the numbers below are twice as dense. -/
def interval (x : Binary64) : Interval :=
  let dense := x.fractionField = 0 ∧ 1 < x.exponentField
  { low := 4 * x.significand - (if dense then 1 else 2)
    high := 4 * x.significand + 2
    closed := x.significand % 2 == 0 }

/-- The decimal reads back as the number. -/
def readsBack (x : Binary64) (d : Decimal) : Bool :=
  let bounds := x.interval
  let quarter := x.power - 2
  -- Both sides in one unit: the decimal and the bounds times the two denominators.
  let value := d.digits * Nat.pow 10 d.exponent.toNat * Nat.pow 2 (-quarter).toNat
  let unit := Nat.pow 2 quarter.toNat * Nat.pow 10 (-d.exponent).toNat
  if bounds.closed then bounds.low * unit ≤ value && value ≤ bounds.high * unit
  else bounds.low * unit < value && value < bounds.high * unit

/-- The decimal with the given exponent that is nearest to a number among its two neighbours that
read back; of two equally near ones the even one. -/
def nearest? (x : Binary64) (exponent : Int) : Option Decimal :=
  let num := x.numerator * Nat.pow 10 (-exponent).toNat
  let den := x.denominator * Nat.pow 10 exponent.toNat
  let below : Decimal := ⟨num / den, exponent⟩
  let above : Decimal := ⟨num / den + 1, exponent⟩
  match x.readsBack below, x.readsBack above with
  | true, true => some (if roundDiv num den = below.digits then below else above)
  | true, false => some below
  | false, true => some above
  | false, false => none

/-- The shortest decimal of a positive number. Seventeen digits always suffice. -/
def shortest (x : Binary64) : Decimal :=
  let places := placesBeforePoint x.numerator x.denominator
  ((List.range 17).findSome? fun (n : Nat) => x.nearest? (places - (n + 1))).getD ⟨0, 0⟩

/-- Digits with the zeros at the end removed. -/
def stripZeros (digits : List Char) : List Char :=
  (digits.reverse.dropWhile (· == '0')).reverse

/-- Digits with a point after the first `places` of them; zeros are filled in on either side. -/
def withPoint (digits : List Char) (places : Int) : List Char :=
  if places ≤ 0 then '0' :: '.' :: List.replicate (-places).toNat '0' ++ digits
  else
    let whole := digits.take places.toNat
    let rest := digits.drop places.toNat
    whole ++ List.replicate (places.toNat - whole.length) '0' ++
      '.' :: (if rest.isEmpty then ['0'] else rest)

/-- Digits with an exponent: one digit before the point and no point after a single digit. -/
def withExponent (digits : List Char) (exponent : Int) : List Char :=
  let point := if digits.length ≤ 1 then [] else '.' :: digits.drop 1
  let size := Nat.toDigits 10 exponent.natAbs
  digits.take 1 ++ point ++ 'e' :: (if exponent < 0 then '-' else '+') ::
    List.replicate (2 - size.length) '0' ++ size

/-- The text of a positive number. -/
def positiveText (x : Binary64) : List Char :=
  let decimal := x.shortest
  let digits := Nat.toDigits 10 decimal.digits
  let places := digits.length + decimal.exponent
  if -4 < places ∧ places ≤ 16 then withPoint (stripZeros digits) places
  else withExponent (stripZeros digits) (places - 1)

/-- The text of a number. -/
def text (x : Binary64) : String :=
  if x.isNaN then "nan"
  else
    let magnitude :=
      if !x.isFinite then "inf".toList
      else if x.isZero then "0.0".toList
      else x.positiveText
    String.ofList (if x.negative then '-' :: magnitude else magnitude)

end Directory.Binary64
