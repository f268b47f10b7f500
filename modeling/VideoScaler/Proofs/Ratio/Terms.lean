import Mathlib.Data.Rat.Lemmas
import VideoScaler.Proofs.Dimensions.Bounds
import VideoScaler.Ratio

/-! Ratios in lowest terms.

Two integers are divided by their greatest common divisor first, which gives the lowest terms of
the number that they stand for, up to wrapping around in 64 bits. Where these terms fit nothing is
left to do, and so the ratio is exact.
-/

set_option autoImplicit false

namespace VideoScaler.Ratio

def toRat (r : Ratio) : ℚ :=
  r.num.toInt / r.den.toInt

structure Lowest (r : Ratio) (q : ℚ) : Prop where
  num_eq : r.num.toInt = q.num
  den_eq : r.den.toInt = q.den

/-- Are the lowest terms of a number within the limit of ratios, which is the same on both sides
of zero? -/
def Fits (q : ℚ) : Prop :=
  q.num.natAbs ≤ 2147483647 ∧ q.den ≤ 2147483647

instance (q : ℚ) : Decidable (Fits q) :=
  inferInstanceAs (Decidable (_ ∧ _))

variable {num den : Int64} {a b r s : Ratio} {q : ℚ}

theorem Lowest.toRat_eq (lowest : r.Lowest q) : r.toRat = q := by
  rw [toRat, lowest.num_eq, lowest.den_eq, Int.cast_natCast, Rat.num_div_den]

theorem Lowest.unique (left : r.Lowest q) (right : s.Lowest q) : r = s := by
  obtain ⟨rnum, rden⟩ := r
  obtain ⟨snum, sden⟩ := s
  have num_eq : rnum = snum := Int32.toInt_inj.1 (left.num_eq.trans right.num_eq.symm)
  have den_eq : rden = sden := Int32.toInt_inj.1 (left.den_eq.trans right.den_eq.symm)
  rw [num_eq, den_eq]

theorem Lowest.den_pos (lowest : r.Lowest q) : 0 < r.den := by
  rw [Int32.lt_iff_toInt_lt, lowest.den_eq]
  exact Int.natCast_pos.2 q.den_pos

theorem isSet_iff : r.isSet = true ↔ r.num.toInt ≠ 0 := by
  rw [isSet, decide_eq_true_eq, ne_eq, ne_eq, ← Int32.toInt_inj, Int32.toInt_zero]

theorem Lowest.isSet_iff (lowest : r.Lowest q) : r.isSet = true ↔ q ≠ 0 := by
  rw [Ratio.isSet_iff, lowest.num_eq, Rat.num_ne_zero]

theorem toRat_ne_zero (set : r.isSet = true) (pos : 0 < r.den) : r.toRat ≠ 0 := by
  rw [Int32.lt_iff_toInt_lt, Int32.toInt_zero] at pos
  exact div_ne_zero (Int.cast_ne_zero.2 (isSet_iff.1 set)) (Int.cast_ne_zero.2 pos.ne')

def quotient (num den : Int64) : ℚ :=
  num.toInt / den.toInt

def divided (num den : Int64) : Int64 × Int64 :=
  let g := Int64.ofNat (num.toInt.gcd den.toInt)
  if den / g < 0 then (-(num / g), -(den / g)) else (num / g, den / g)

theorem toInt_ne_zero (some : den ≠ 0) : den.toInt ≠ 0 := fun none =>
  some (Int64.toInt_inj.1 none)

theorem gcd_pos (num : Int64) (some : den ≠ 0) : 0 < num.toInt.gcd den.toInt :=
  Int.gcd_pos_of_ne_zero_right _ (toInt_ne_zero some)

theorem reduce_eq (some : den ≠ 0) :
    reduce num den =
      ⟨(fit (divided num den).1 (divided num den).2).1.toInt32,
        (max (fit (divided num den).1 (divided num den).2).2 1).toInt32⟩ := by
  have g_eq : max (Nat.gcd num.toInt.natAbs den.toInt.natAbs) 1 = num.toInt.gcd den.toInt :=
    Nat.max_eq_left (gcd_pos num some)
  unfold reduce divided
  simp only [if_neg some, g_eq]

theorem num_quotient (num den : Int64) :
    (quotient num den).num = den.toInt.sign * (num.toInt / num.toInt.gcd den.toInt) := by
  rw [quotient, ← Rat.divInt_eq_div, Rat.num_divInt, Int.gcd_comm,
    Int.mul_ediv_assoc _ (Int.gcd_dvd_left ..)]

theorem den_quotient (some : den ≠ 0) :
    ((quotient num den).den : Int) = den.toInt.sign * (den.toInt / num.toInt.gcd den.toInt) := by
  rw [quotient, ← Rat.divInt_eq_div, Rat.den_divInt, if_neg (toInt_ne_zero some), Int.gcd_comm,
    ← Int.mul_ediv_assoc _ (Int.gcd_dvd_right ..), Int.sign_mul_self_eq_natAbs]
  rfl

theorem toInt_div_ofNat {n : Int64} {g : Nat} (divides : (g : Int) ∣ n.toInt) (pos : 0 < g)
    (small : g < 2 ^ 63) : (n / Int64.ofNat g).toInt = n.toInt / g := by
  have g_eq := Int64.toInt_ofNat_of_lt small
  have ne : Int64.ofNat g ≠ -1 := fun same => by
    rw [same] at g_eq
    have minus : (-1 : Int64).toInt = -1 := rfl
    omega
  rw [Int64.toInt_div_of_ne_right _ _ ne, g_eq, Int.tdiv_eq_ediv_of_dvd divides]

/-- A divisor that wraps around divides zero and the least integer only. -/
theorem eq_of_large {n : Int64} {g : Nat} (divides : (g : Int) ∣ n.toInt) (large : 2 ^ 63 ≤ g) :
    n = 0 ∨ g = 2 ^ 63 ∧ n = Int64.minValue := by
  by_cases none : n.toInt = 0
  · exact .inl (Int64.toInt_inj.1 none)
  · have low := n.le_toInt
    have high := n.toInt_lt
    have le := Nat.le_of_dvd (Int.natAbs_pos.2 none) (Int.natCast_dvd.1 divides)
    exact .inr ⟨by omega, Int64.toInt_inj.1 (by rw [Int64.toInt_minValue]; omega)⟩

theorem sign_ediv_of_dvd {n g : Int} (divides : g ∣ n) (pos : 0 < g) : (n / g).sign = n.sign := by
  obtain ⟨m, rfl⟩ := divides
  rw [Int.mul_ediv_cancel_left _ pos.ne', Int.sign_mul, Int.sign_eq_one_of_pos pos, Int.one_mul]

/-- The terms over their greatest common divisor are the lowest ones up to the sign of the second
one. -/
theorem signed_terms (num : Int64) (some : den ≠ 0) :
    let g := Int64.ofNat (num.toInt.gcd den.toInt)
    (quotient num den).num = (den / g).toInt.sign * (num / g).toInt ∧
      ((quotient num den).den : Int) = (den / g).toInt.sign * (den / g).toInt := by
  have num_dvd : (num.toInt.gcd den.toInt : Int) ∣ num.toInt := Int.gcd_dvd_left ..
  have den_dvd : (num.toInt.gcd den.toInt : Int) ∣ den.toInt := Int.gcd_dvd_right ..
  have pos := gcd_pos num some
  rw [num_quotient, den_quotient some]
  generalize num.toInt.gcd den.toInt = g at *
  obtain small | large := Nat.lt_or_ge g (2 ^ 63)
  · simp only [toInt_div_ofNat num_dvd pos small, toInt_div_ofNat den_dvd pos small,
      sign_ediv_of_dvd den_dvd (Int.natCast_pos.2 pos), and_self]
  · -- The least integer divides zero and itself, and the result is as it should be.
    obtain none | ⟨rfl, rfl⟩ := eq_of_large den_dvd large
    · exact absurd none some
    obtain rfl | ⟨-, rfl⟩ := eq_of_large num_dvd large
    · exact ⟨rfl, rfl⟩
    · exact ⟨rfl, rfl⟩

theorem toInt_div_gcd_ne_zero (num : Int64) (some : den ≠ 0) :
    (den / Int64.ofNat (num.toInt.gcd den.toInt)).toInt ≠ 0 := by
  intro none
  have den_eq := (signed_terms num some).2
  rw [none, Int.mul_zero] at den_eq
  exact (quotient num den).den_ne_zero (Int.natCast_eq_zero.1 den_eq)

theorem divided_eq (some : den ≠ 0) :
    divided num den
      = (Int64.ofInt (quotient num den).num, Int64.ofInt (quotient num den).den) := by
  obtain ⟨num_eq, den_eq⟩ := signed_terms num some
  have ne := toInt_div_gcd_ne_zero num some
  rw [num_eq, den_eq, divided]
  split
  case isTrue below =>
    rw [Int64.lt_iff_toInt_lt, Int64.toInt_zero] at below
    rw [Int.sign_eq_neg_one_of_neg below, Int.neg_one_mul, Int.neg_one_mul, Int64.ofInt_neg,
      Int64.ofInt_neg, Int64.ofInt_toInt, Int64.ofInt_toInt]
  case isFalse nonneg =>
    rw [Int64.lt_iff_toInt_lt, Int64.toInt_zero] at nonneg
    rw [Int.sign_eq_one_of_pos (by omega), Int.one_mul, Int.one_mul, Int64.ofInt_toInt,
      Int64.ofInt_toInt]

theorem toInt_abs (ne : num.toInt ≠ -2 ^ 63) : num.abs.toInt = num.toInt.natAbs := by
  have abs_eq : num.abs.toInt = num.toBitVec.abs.toInt := by
    rw [← Int64.toBitVec_abs]
    rfl
  have some : num.toBitVec ≠ BitVec.intMin 64 := fun same => ne (by
    rw [← Int64.toInt_toBitVec, same]
    rfl)
  rw [abs_eq, BitVec.toInt_abs_eq_natAbs_of_ne_intMin some, Int64.toInt_toBitVec]

theorem exceeds_iff (ne : num.toInt ≠ -2 ^ 63) :
    (limit < num.abs ∨ limit < den) ↔
      2147483647 < num.toInt.natAbs ∨ 2147483647 < den.toInt := by
  have limit_eq : limit.toInt = 2147483647 := rfl
  rw [Int64.lt_iff_toInt_lt, Int64.lt_iff_toInt_lt, toInt_abs ne, limit_eq]
  omega

theorem toInt_toInt32 (low : -2147483648 ≤ num.toInt) (high : num.toInt ≤ 2147483647) :
    num.toInt32.toInt = num.toInt := by
  rw [Int64.toInt_toInt32]
  exact Int.bmod_eq_of_le (by omega) (by omega)

theorem lowest_reduce (some : den ≠ 0) (fits : Fits (quotient num den)) :
    (reduce num den).Lowest (quotient num den) := by
  obtain ⟨num_le, den_le⟩ := fits
  have pos := (quotient num den).den_pos
  have num_eq : (Int64.ofInt (quotient num den).num).toInt = (quotient num den).num :=
    Int64.toInt_ofInt_of_le (by omega) (by omega)
  have den_eq : (Int64.ofInt (quotient num den).den).toInt = (quotient num den).den :=
    Int64.toInt_ofInt_of_le (by omega) (by omega)
  have kept : fit (.ofInt (quotient num den).num) (.ofInt (quotient num den).den)
      = (.ofInt (quotient num den).num, .ofInt (quotient num den).den) := by
    rw [fit, if_neg]
    rw [exceeds_iff (by omega)]
    omega
  have max_eq : max (Int64.ofInt (quotient num den).den) 1 = Int64.ofInt (quotient num den).den :=
    Int64.toInt_inj.1 (by
      rw [Dimensions.toInt_max, den_eq]
      exact max_eq_left (Int.natCast_pos.2 pos))
  simp only [reduce_eq some, divided_eq some, kept, max_eq]
  constructor
  · rw [toInt_toInt32 (by omega) (by omega), num_eq]
  · rw [toInt_toInt32 (by omega) (by omega), den_eq]

theorem toInt_mul_terms (m n : Int32) : (m.toInt64 * n.toInt64).toInt = m.toInt * n.toInt := by
  have m_ge := m.le_toInt
  have m_lt := m.toInt_lt
  have n_ge := n.le_toInt
  have n_lt := n.toInt_lt
  rw [Dimensions.toInt_mul_of_bounds, Int32.toInt_toInt64, Int32.toInt_toInt64] <;>
    rw [Int32.toInt_toInt64, Int32.toInt_toInt64] <;> nlinarith

theorem quotient_mul (a b : Ratio) :
    quotient (a.num.toInt64 * b.num.toInt64) (a.den.toInt64 * b.den.toInt64)
      = a.toRat * b.toRat := by
  rw [quotient, toInt_mul_terms, toInt_mul_terms, toRat, toRat, Int.cast_mul, Int.cast_mul,
    div_mul_div_comm]

theorem mul_terms_ne_zero (a_pos : 0 < a.den) (b_pos : 0 < b.den) :
    a.den.toInt64 * b.den.toInt64 ≠ 0 := by
  intro none
  have product := toInt_mul_terms a.den b.den
  rw [Int32.lt_iff_toInt_lt, Int32.toInt_zero] at a_pos b_pos
  rw [none, Int64.toInt_zero] at product
  exact (Int.mul_pos a_pos b_pos).ne product

theorem lowest_mul (a_pos : 0 < a.den) (b_pos : 0 < b.den) (fits : Fits (a.toRat * b.toRat)) :
    (a.mul b).Lowest (a.toRat * b.toRat) := by
  rw [← quotient_mul] at fits ⊢
  exact lowest_reduce (mul_terms_ne_zero a_pos b_pos) fits

end VideoScaler.Ratio
