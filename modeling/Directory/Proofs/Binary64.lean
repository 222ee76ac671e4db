import Directory.Binary64.Basic
import Mathlib.Algebra.Order.Ring.Nat

/-!
# Values of binary64 numbers

A number is told by its sign, its exponent and its fraction, and a number other than zero by its
value: significands are normalised, so that no two of them stand for the same magnitude.
-/

namespace Directory.Binary64

variable {x y : Binary64}

/-- The bits of a number are its sign, its exponent and its fraction. -/
theorem word_eq (x : Binary64) :
    x.word.toNat = (if x.negative then Nat.pow 2 63 else 0) + x.exponentField * Nat.pow 2 52 +
      x.fractionField := by
  have hlt := x.word.toNat_lt
  have h63 : Nat.pow 2 63 = 9223372036854775808 := rfl
  have h52 : Nat.pow 2 52 = 4503599627370496 := rfl
  have h11 : Nat.pow 2 11 = 2048 := rfl
  simp only [negative, exponentField, fractionField, h63, h52, h11, decide_eq_true_eq]
  split <;> omega

theorem ext_fields (hsign : x.negative = y.negative) (hexponent : x.exponentField = y.exponentField)
    (hfraction : x.fractionField = y.fractionField) : x = y := by
  have hword : x.word.toNat = y.word.toNat := by
    rw [word_eq x, word_eq y, hsign, hexponent, hfraction]
  obtain ⟨u⟩ := x
  obtain ⟨v⟩ := y
  exact congrArg Binary64.mk (UInt64.toNat_inj.1 hword)

theorem fractionField_lt (x : Binary64) : x.fractionField < Nat.pow 2 52 :=
  Nat.mod_lt _ (by decide)

theorem significand_lt (x : Binary64) : x.significand < Nat.pow 2 53 := by
  have hlt := x.fractionField_lt
  have h52 : Nat.pow 2 52 = 4503599627370496 := rfl
  have h53 : Nat.pow 2 53 = 9007199254740992 := rfl
  unfold significand
  split <;> omega

/-- A significand is normalised unless the exponent is the least. -/
theorem significand_normal (x : Binary64) :
    (x.power = -1074 ∨ Nat.pow 2 52 ≤ x.significand) ∧ -1074 ≤ x.power := by
  unfold power significand
  split
  · simp
  · constructor
    · exact .inr (Nat.le_add_right _ _)
    · omega

theorem isZero_iff : x.isZero = true ↔ x.significand = 0 := by
  have h52 : Nat.pow 2 52 = 4503599627370496 := rfl
  simp only [isZero, significand, Bool.and_eq_true, beq_iff_eq]
  split
  next h => simp [h]
  next h => simp [h]

/-- Two significands with their powers stand for the same magnitude only if they are the same. -/
theorem magnitude_inj (h : x.numerator * y.denominator = y.numerator * x.denominator)
    (hpower : x.power ≤ y.power) :
    x.significand = y.significand ∧ x.power = y.power := by
  obtain ⟨k, hk⟩ := Int.le.dest hpower
  have hexp : y.power.toNat + (-x.power).toNat = x.power.toNat + (-y.power).toNat + k := by omega
  simp only [numerator, denominator, Nat.pow_eq] at h
  rw [mul_assoc, mul_assoc, ← pow_add, ← pow_add, hexp, pow_add _ _ k, mul_comm _ (2 ^ k),
    ← mul_assoc] at h
  have hscaled := Nat.eq_of_mul_eq_mul_right (Nat.pow_pos (by decide)) h
  cases k with
  | zero => exact ⟨by simpa using hscaled, by omega⟩
  | succ j =>
      exfalso
      have hlt := x.significand_lt
      have hleast := x.significand_normal.2
      have hnormal := y.significand_normal.1.resolve_left (by omega)
      have h52 : Nat.pow 2 52 = 4503599627370496 := rfl
      have h53 : Nat.pow 2 53 = 9007199254740992 := rfl
      have hlarge := Nat.mul_le_mul hnormal (Nat.one_le_two_pow : 1 ≤ 2 ^ j)
      rw [pow_succ, ← mul_assoc] at hscaled
      omega

/-- The significand and its power tell the exponent and the fraction. -/
theorem fields_inj (hsignificand : x.significand = y.significand) (hpower : x.power = y.power) :
    x.exponentField = y.exponentField ∧ x.fractionField = y.fractionField := by
  have hx := x.fractionField_lt
  have hy := y.fractionField_lt
  have h52 : Nat.pow 2 52 = 4503599627370496 := rfl
  unfold significand at hsignificand
  unfold power at hpower
  -- the least exponent is that of two ranges, which the significand tells apart
  by_cases hleast : x.exponentField = 0 <;> by_cases hother : y.exponentField = 0 <;>
    simp only [hleast, hother, if_true, if_false] at hsignificand hpower <;> omega

theorem numerator_eq_zero_iff : x.numerator = 0 ↔ x.isZero = true := by
  rw [isZero_iff, numerator, Nat.mul_eq_zero]
  exact or_iff_left (Nat.pow_pos (by decide)).ne'

theorem natAbs_signedNumerator (x : Binary64) : x.signedNumerator.natAbs = x.numerator := by
  unfold signedNumerator
  split
  · rw [Int.natAbs_neg, Int.natAbs_natCast]
  · rw [Int.natAbs_natCast]

/-- Two numbers of the same magnitude and sign are the same. -/
theorem eq_of_magnitude (hsign : x.negative = y.negative)
    (h : x.numerator * y.denominator = y.numerator * x.denominator) : x = y := by
  have hsame : x.significand = y.significand ∧ x.power = y.power := by
    rcases Int.le_total x.power y.power with hle | hle
    · exact magnitude_inj h hle
    · obtain ⟨hsignificand, hpower⟩ := magnitude_inj h.symm hle
      exact ⟨hsignificand.symm, hpower.symm⟩
  obtain ⟨hexponent, hfraction⟩ := fields_inj hsame.1 hsame.2
  exact ext_fields hsign hexponent hfraction

/-- Two numbers of the same value are the same number, or both zero. -/
theorem eq_or_isZero (h : x.signedNumerator * y.denominator = y.signedNumerator * x.denominator) :
    x = y ∨ (x.isZero = true ∧ y.isZero = true) := by
  have hmagnitude : x.numerator * y.denominator = y.numerator * x.denominator := by
    have habs := congrArg Int.natAbs h
    simpa only [Int.natAbs_mul, natAbs_signedNumerator, Int.natAbs_natCast] using habs
  cases hzero : x.isZero with
  | true =>
      refine .inr ⟨rfl, ?_⟩
      rw [← numerator_eq_zero_iff] at hzero ⊢
      rw [hzero, Nat.zero_mul, eq_comm, Nat.mul_eq_zero] at hmagnitude
      exact hmagnitude.resolve_right x.denominator_pos.ne'
  | false =>
      refine .inl (eq_of_magnitude ?_ hmagnitude)
      -- numbers of opposite signs have the same value only if it is zero
      have hx : 0 < x.numerator * y.denominator := by
        rw [Bool.eq_false_iff, ne_eq, ← numerator_eq_zero_iff] at hzero
        exact Nat.mul_pos (Nat.pos_of_ne_zero hzero) y.denominator_pos
      have hmagnitude' : (x.numerator : Int) * y.denominator = y.numerator * x.denominator := by
        exact_mod_cast hmagnitude
      have hx' : 0 < (x.numerator : Int) * y.denominator := by exact_mod_cast hx
      unfold signedNumerator at h
      cases hnegative : x.negative <;> cases hother : y.negative <;>
        simp only [hnegative, hother, if_true, Bool.false_eq_true, if_false, Int.neg_mul] at h <;>
        first | rfl | omega

theorem not_isNaN_of_isFinite (h : x.isFinite = true) : x.isNaN = false := by
  unfold isFinite at h
  unfold isNaN
  simp_all

end Directory.Binary64
