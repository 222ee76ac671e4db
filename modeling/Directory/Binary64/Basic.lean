/-!
# Binary64 numbers

Floating-point numbers as their 64 bits, decoded and rounded in exact natural arithmetic. A finite
number is, up to its sign, the fraction `x.numerator / x.denominator`; `Binary64.ofRatio` rounds any
fraction to the nearest number, ties going to the even significand.
-/

namespace Directory

/-- A binary64 number, given by its bits. -/
structure Binary64 where
  word : UInt64
deriving DecidableEq

/-- The nearest natural number to a fraction; of two equally near ones the even one. -/
def roundDiv (num den : Nat) : Nat :=
  let quotient := num / den
  let rest := num % den
  if den < 2 * rest ∨ (2 * rest = den ∧ quotient % 2 = 1) then quotient + 1 else quotient

namespace Binary64

/-- The sign bit. -/
def negative (x : Binary64) : Bool :=
  Nat.pow 2 63 ≤ x.word.toNat

/-- The eleven bits of the exponent. -/
def exponentField (x : Binary64) : Nat :=
  x.word.toNat / Nat.pow 2 52 % Nat.pow 2 11

/-- The 52 bits of the fraction. -/
def fractionField (x : Binary64) : Nat :=
  x.word.toNat % Nat.pow 2 52

/-- A number that is neither infinite nor the result of an undefined operation. -/
def isFinite (x : Binary64) : Bool :=
  x.exponentField != 2047

/-- The result of an undefined operation. -/
def isNaN (x : Binary64) : Bool :=
  x.exponentField == 2047 && x.fractionField != 0

/-- The integer significand of a finite number. -/
def significand (x : Binary64) : Nat :=
  if x.exponentField = 0 then x.fractionField else Nat.pow 2 52 + x.fractionField

/-- The power of two that the significand of a finite number is multiplied by. -/
def power (x : Binary64) : Int :=
  if x.exponentField = 0 then -1074 else (x.exponentField : Int) - 1075

/-- The numerator of the magnitude of a finite number. -/
def numerator (x : Binary64) : Nat :=
  x.significand * Nat.pow 2 x.power.toNat

/-- The denominator of the magnitude of a finite number. -/
def denominator (x : Binary64) : Nat :=
  Nat.pow 2 (-x.power).toNat

/-- The denominator is never zero. -/
theorem denominator_pos (x : Binary64) : 0 < x.denominator :=
  Nat.pow_pos (by decide)

/-- Both zeros. -/
def isZero (x : Binary64) : Bool :=
  x.exponentField == 0 && x.fractionField == 0

/-- The number with the given sign and the given lower 63 bits. -/
def ofBits (negative : Bool) (bits : Nat) : Binary64 :=
  ⟨UInt64.ofNat ((if negative then Nat.pow 2 63 else 0) + bits)⟩

/-- The infinity of a sign. -/
def infinity (negative : Bool) : Binary64 :=
  ofBits negative (2047 * Nat.pow 2 52)

/-- A result of an undefined operation. The lower bits of its fraction tell one such result from
another. -/
def nanOf (number : Nat) : Binary64 :=
  ofBits false (2047 * Nat.pow 2 52 + Nat.pow 2 51 + number % Nat.pow 2 51)

/-- The result of an undefined operation, in its usual bits. -/
def nan : Binary64 :=
  nanOf 0

/-- Positive zero. -/
def zero : Binary64 :=
  ofBits false 0

/-- The fraction `num / den` in units of a power of two, rounded. -/
def roundAt (num den : Nat) (power : Int) : Nat :=
  roundDiv (num * Nat.pow 2 (-power).toNat) (den * Nat.pow 2 power.toNat)

/-- The power of two that leaves 53 bits before the point of a positive fraction, or the least
power there is. -/
def powerFor (num den : Nat) : Int :=
  let guess := (Nat.log2 num : Int) - Nat.log2 den - 52
  let tooHigh := num * Nat.pow 2 (-guess).toNat < Nat.pow 2 52 * (den * Nat.pow 2 guess.toNat)
  max (if tooHigh then guess - 1 else guess) (-1074)

/-- The number nearest to a fraction with a sign; a fraction too large is rounded to infinity. -/
def ofRatio (negative : Bool) (num den : Nat) : Binary64 :=
  if num = 0 then ofBits negative 0
  else
    let power := powerFor num den
    -- A significand rounded up to the next power of two carries into the exponent.
    let bits := (power + 1074).toNat * Nat.pow 2 52 + roundAt num den power
    if bits < 2047 * Nat.pow 2 52 then ofBits negative bits else infinity negative

/-- The integer part of a finite number. -/
def truncate (x : Binary64) : Int :=
  let magnitude := Int.ofNat (x.numerator / x.denominator)
  if x.negative then -magnitude else magnitude

/-- The numerator of a finite number with its sign. -/
def signedNumerator (x : Binary64) : Int :=
  if x.negative then -x.numerator else x.numerator

/-- Equality of numbers: nothing equals the result of an undefined operation, and the two zeros
are equal. -/
def same (x y : Binary64) : Bool :=
  !x.isNaN && !y.isNaN && (x.word == y.word || (x.isZero && y.isZero))

/-- Equality with an integer. -/
def sameAsInt (x : Binary64) (n : Int) : Bool :=
  x.isFinite && x.signedNumerator == n * x.denominator

/-- Being less than an integer. -/
def lessThanInt (x : Binary64) (n : Int) : Bool :=
  if x.isNaN then false
  else if x.isFinite then x.signedNumerator < n * x.denominator
  else x.negative

/-- The number with the opposite sign. -/
def negate (x : Binary64) : Binary64 :=
  ofBits (!x.negative) (x.word.toNat % Nat.pow 2 63)

/-- The number nearest to an integer, unless the integer is too large. -/
def ofInt? (n : Int) : Option Binary64 :=
  some (ofRatio (n < 0) n.natAbs 1) |>.filter isFinite

/-- The difference of two numbers, rounded. It is a negative zero only where a positive zero is
taken from a negative one; the difference of two equal infinities is undefined. -/
def sub (x y : Binary64) : Binary64 :=
  if x.isNaN || y.isNaN then nan
  else if x.isFinite && y.isFinite then
    let num := x.signedNumerator * y.denominator - y.signedNumerator * x.denominator
    let isBelow := num < 0 || (num == 0 && x.isZero && x.negative && !y.negative)
    ofRatio isBelow num.natAbs (x.denominator * y.denominator)
  else if x.isFinite then y.negate
  else if y.isFinite || x.negative != y.negative then x
  else nan

/-- A number times a positive natural number, rounded. -/
def scale (x : Binary64) (n : Nat) : Binary64 :=
  if x.isFinite then ofRatio x.negative (x.numerator * n) x.denominator else x

/-- A number rounded to a count of decimal places. -/
def roundPlaces (x : Binary64) (places : Nat) : Binary64 :=
  if x.isFinite then
    let unit := Nat.pow 10 places
    ofRatio x.negative (roundDiv (x.numerator * unit) x.denominator) unit
  else x

/-- The number nearest to `digits * 10 ^ exponent`. -/
def ofDecimal (negative : Bool) (digits : Nat) (exponent : Int) : Binary64 :=
  ofRatio negative (digits * Nat.pow 10 exponent.toNat) (Nat.pow 10 (-exponent).toNat)

end Binary64

end Directory
