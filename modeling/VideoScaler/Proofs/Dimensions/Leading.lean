import Mathlib.Tactic.Linarith
import Mathlib.Tactic.Ring
import VideoScaler.Dimensions

/-! What follows from a dimension.

The values of expressions are bounded, so that the products that the input's shape makes of them
fit in 64 bits, and so does what a dimension that is left open comes to. What follows back from it
is bounded again.
-/

set_option autoImplicit false

namespace VideoScaler.Dimensions

theorem toInt_mul_of_bounds {a b : Int64} (low : -2 ^ 63 ≤ a.toInt * b.toInt)
    (high : a.toInt * b.toInt < 2 ^ 63) : (a * b).toInt = a.toInt * b.toInt := by
  rw [Int64.toInt_mul]
  exact Int.bmod_eq_of_le (by omega) (by omega)

theorem toInt_widen (n : UInt32) : n.toUInt64.toInt64.toInt = n.toNat := by
  have small := n.toNat_lt
  show (BitVec.toInt n.toUInt64.toBitVec) = n.toNat
  rw [BitVec.toInt_eq_toNat_of_lt]
  · exact congrArg Nat.cast (UInt32.toNat_toUInt64 n)
  · have same : n.toUInt64.toBitVec.toNat = n.toNat := UInt32.toNat_toUInt64 n
    omega

theorem roundQuotient_ofNat (n d : Nat) :
    roundQuotient n d = ((n + d / 2) / d : Nat) := by
  have signs : ((decide ((n : Int) < 0)) != decide ((d : Int) < 0)) = false := by
    rw [decide_eq_false (by omega), decide_eq_false (by omega)]
    rfl
  unfold roundQuotient
  rw [signs, Int.natAbs_natCast, Int.natAbs_natCast]
  rfl

theorem roundQuotient_nonneg {num den : Int} (above : 0 ≤ num) (positive : 0 < den) :
    0 ≤ roundQuotient num den := by
  obtain ⟨n, rfl⟩ := Int.eq_ofNat_of_zero_le above
  obtain ⟨d, rfl⟩ := Int.eq_ofNat_of_zero_le (Int.le_of_lt positive)
  rw [roundQuotient_ofNat]
  exact Int.natCast_nonneg _

theorem two_mul_roundQuotient_le {num den : Int} (above : 0 ≤ num) (positive : 0 < den) :
    2 * (roundQuotient num den * den) ≤ 2 * num + den := by
  obtain ⟨n, rfl⟩ := Int.eq_ofNat_of_zero_le above
  obtain ⟨d, rfl⟩ := Int.eq_ofNat_of_zero_le (Int.le_of_lt positive)
  rw [roundQuotient_ofNat]
  have whole : (n + d / 2) / d * d ≤ n + d / 2 := Nat.div_mul_le_self _ _
  have half : 2 * ((n + d / 2) / d * d) ≤ 2 * n + d := by omega
  exact_mod_cast half

/-- What is rounded up is at least a half, so that rounding at most doubles. -/
theorem roundQuotient_mul_le_two_mul {num den : Int} (above : 0 ≤ num) (positive : 0 < den) :
    roundQuotient num den * den ≤ 2 * num := by
  have low := roundQuotient_nonneg above positive
  have near := two_mul_roundQuotient_le above positive
  obtain some | none := Int.lt_or_eq_of_le low
  · have least : den ≤ roundQuotient num den * den :=
      le_mul_of_one_le_left (Int.le_of_lt positive) some
    omega
  · rw [← none, Int.zero_mul]
    omega

theorem roundQuotient_mul_le {num c f bound : Int} (above : 0 ≤ num) (c_pos : 0 < c)
    (f_pos : 0 < f) (num_le : num ≤ bound * c) :
    2 * (roundQuotient num (c * f) * f) ≤ 2 * bound + f := by
  have scaled := two_mul_roundQuotient_le above (Int.mul_pos c_pos f_pos)
  apply Int.le_of_mul_le_mul_right _ c_pos
  calc 2 * (roundQuotient num (c * f) * f) * c
      = 2 * (roundQuotient num (c * f) * (c * f)) := by ring
    _ ≤ 2 * num + c * f := scaled
    _ ≤ 2 * (bound * c) + c * f := by omega
    _ = (2 * bound + f) * c := by ring

/-- The greatest dimension that can follow from a bounded one, up to half of the multiple that is
asked for. -/
def mostFollowing : Int :=
  2147483647 * 4294967295

/-- What a dimension can follow from: another one, which is the value of an expression or the
input's own, in a picture of `across` by `along`, as a multiple of `step`. -/
structure Leading (length across along step : Int) : Prop where
  nonneg : 0 ≤ length
  le : length ≤ 2147483647 ∨ length = along
  across_nonneg : 0 ≤ across
  across_le : across ≤ 4294967295
  along_nonneg : 0 ≤ along
  along_le : along ≤ 4294967295
  step_pos : 1 ≤ step
  step_le : step ≤ 2147483647

namespace Leading

variable {length across along step : Int}

theorem length_le (leads : Leading length across along step) : length ≤ 4294967295 := by
  have along_le := leads.along_le
  obtain small | same := leads.le
  · omega
  · omega

theorem mul_nonneg (leads : Leading length across along step) : 0 ≤ length * across :=
  Int.mul_nonneg leads.nonneg leads.across_nonneg

theorem mul_le (leads : Leading length across along step) (along_pos : 0 < along) :
    length * across ≤ mostFollowing * along := by
  have across_nonneg := leads.across_nonneg
  have across_le := leads.across_le
  unfold mostFollowing
  obtain small | rfl := leads.le
  · calc length * across ≤ 2147483647 * 4294967295 := by nlinarith
      _ ≤ 2147483647 * 4294967295 * along := by omega
  · calc length * across ≤ length * 4294967295 := by nlinarith
      _ ≤ 2147483647 * 4294967295 * length := by omega

theorem divisor_fits (leads : Leading length across along step) :
    0 ≤ along * step ∧ along * step < 2 ^ 63 := by
  have most : along * step ≤ 4294967295 * 2147483647 :=
    Int.mul_le_mul leads.along_le leads.step_le (Int.le_trans (by decide) leads.step_pos)
      (by decide)
  have least : 0 ≤ along * step :=
    Int.mul_nonneg leads.along_nonneg (Int.le_trans (by decide) leads.step_pos)
  omega

theorem quotient_nonneg (leads : Leading length across along step) (along_pos : 0 < along) :
    0 ≤ roundQuotient (length * across) (along * step) :=
  roundQuotient_nonneg leads.mul_nonneg (Int.mul_pos along_pos leads.step_pos)

theorem multiple_le (leads : Leading length across along step) (along_pos : 0 < along) :
    2 * (roundQuotient (length * across) (along * step) * step) ≤ 2 * mostFollowing + step :=
  roundQuotient_mul_le leads.mul_nonneg along_pos leads.step_pos (leads.mul_le along_pos)

theorem quotient_le_multiple (leads : Leading length across along step) (along_pos : 0 < along) :
    roundQuotient (length * across) (along * step) ≤
      roundQuotient (length * across) (along * step) * step :=
  le_mul_of_one_le_right (leads.quotient_nonneg along_pos) leads.step_pos

theorem multiple_fits (leads : Leading length across along step) (along_pos : 0 < along) :
    0 ≤ roundQuotient (length * across) (along * step) * step ∧
      roundQuotient (length * across) (along * step) * step < 2 ^ 63 := by
  have low := leads.quotient_nonneg along_pos
  have high := leads.multiple_le along_pos
  have step_le := leads.step_le
  unfold mostFollowing at high
  exact ⟨Int.mul_nonneg low (Int.le_trans (by decide) leads.step_pos), by omega⟩

/-- A multiple is at most twice the quotient that it follows from, so that what follows back from it
is bounded again. -/
theorem multiple_mul_le (leads : Leading length across along step) (along_pos : 0 < along) :
    roundQuotient (length * across) (along * step) * step * along ≤ mostFollowing * across := by
  have length_le := leads.length_le
  have across_nonneg := leads.across_nonneg
  unfold mostFollowing
  calc roundQuotient (length * across) (along * step) * step * along
      = roundQuotient (length * across) (along * step) * (along * step) := by ring
    _ ≤ 2 * (length * across) :=
      roundQuotient_mul_le_two_mul leads.mul_nonneg (Int.mul_pos along_pos leads.step_pos)
    _ ≤ 2 * (4294967295 * across) :=
      Int.mul_le_mul_of_nonneg_left (Int.mul_le_mul_of_nonneg_right length_le across_nonneg)
        (by decide)
    _ ≤ 2147483647 * 4294967295 * across := by omega

variable {a b c f : Int64}

theorem toInt_divisor (leads : Leading a.toInt b.toInt c.toInt f.toInt) :
    (c * f).toInt = c.toInt * f.toInt := by
  have fits := leads.divisor_fits
  exact toInt_mul_of_bounds (by omega) fits.2

theorem divisor_ne_zero (leads : Leading a.toInt b.toInt c.toInt f.toInt)
    (c_pos : 0 < c.toInt) : c * f ≠ 0 := by
  intro none
  have divisor := leads.toInt_divisor
  have positive : 0 < c.toInt * f.toInt := Int.mul_pos c_pos leads.step_pos
  rw [none, Int64.toInt_zero] at divisor
  omega

theorem toInt_quotient (leads : Leading a.toInt b.toInt c.toInt f.toInt) (c_pos : 0 < c.toInt) :
    (rescale a b (c * f)).toInt = roundQuotient (a.toInt * b.toInt) (c.toInt * f.toInt) := by
  have low := leads.quotient_nonneg c_pos
  have below := leads.quotient_le_multiple c_pos
  have fits := leads.multiple_fits c_pos
  rw [rescale, if_neg (leads.divisor_ne_zero c_pos), leads.toInt_divisor]
  exact Int64.toInt_ofInt_of_le (by omega) (by omega)

theorem toInt_multiple (leads : Leading a.toInt b.toInt c.toInt f.toInt) (c_pos : 0 < c.toInt) :
    (rescale a b (c * f) * f).toInt =
      roundQuotient (a.toInt * b.toInt) (c.toInt * f.toInt) * f.toInt := by
  have fits := leads.multiple_fits c_pos
  rw [← leads.toInt_quotient c_pos] at fits ⊢
  exact toInt_mul_of_bounds (by omega) fits.2

theorem divisor_eq_zero (leads : Leading a.toInt b.toInt c.toInt f.toInt)
    (c_zero : c.toInt = 0) : c * f = 0 := by
  apply Int64.toInt_inj.1
  rw [leads.toInt_divisor, c_zero, Int.zero_mul, Int64.toInt_zero]

end Leading

theorem lt_zero_iff {n : Int64} : n < 0 ↔ n.toInt < 0 := by
  rw [Int64.lt_iff_toInt_lt, Int64.toInt_zero]

theorem zero_le_iff {n : Int64} : 0 ≤ n ↔ 0 ≤ n.toInt := by
  rw [Int64.le_iff_toInt_le, Int64.toInt_zero]

theorem own_nonneg (n : UInt32) : 0 ≤ n.toUInt64.toInt64 := by
  rw [zero_le_iff, toInt_widen]
  exact Int.natCast_nonneg _

theorem toInt_factor {n : Int64} (negative : n < 0) (least : -2147483647 ≤ n.toInt) :
    (factor n).toInt = -n.toInt := by
  rw [lt_zero_iff] at negative
  unfold factor
  split
  case isTrue =>
    rw [Int64.toInt_neg]
    exact Int.bmod_eq_of_le (by omega) (by omega)
  case isFalse above =>
    rw [Int64.lt_iff_toInt_lt] at above
    have minus : (-1 : Int64).toInt = -1 := by decide
    have one : (1 : Int64).toInt = 1 := by decide
    omega

def given (own n : Int64) : Int64 :=
  if n = 0 then own else n

section
variable {inW inH w h own n : Int64}

theorem ite_eq_given : (if n = 0 then own else n) = given own n :=
  rfl

theorem given_of_neg (negative : n < 0) : given own n = n :=
  if_neg (Int64.ne_of_lt negative)

theorem given_nonneg (own_nonneg : 0 ≤ own) (closed : ¬n < 0) : ¬given own n < 0 := by
  rw [Int64.not_lt] at closed ⊢
  unfold given
  split
  case isTrue => exact own_nonneg
  case isFalse => exact closed

theorem given_le (n_le : n.toInt.natAbs ≤ 2147483647) :
    (given own n).toInt ≤ 2147483647 ∨ (given own n).toInt = own.toInt := by
  unfold given
  split
  case isTrue => exact .inr rfl
  case isFalse => exact .inl (by omega)

/-! Which dimensions are left open decides what follows from what. -/

theorem complete_open (columns : w < 0) (rows : h < 0) (inW_nonneg : 0 ≤ inW)
    (inH_nonneg : 0 ≤ inH) : complete inW inH w h = (inW, inH) := by
  have wide : (if w = 0 then inW else w) = w := given_of_neg columns
  have tall : (if h = 0 then inH else h) = h := given_of_neg rows
  simp [complete, wide, tall, columns, rows, Int64.not_lt.2 inW_nonneg, Int64.not_lt.2 inH_nonneg]

theorem complete_width (columns : w < 0) (inH_nonneg : 0 ≤ inH) (rows : ¬h < 0) :
    complete inW inH w h =
      (rescale (given inH h) inW (inH * factor w) * factor w, given inH h) := by
  have wide : (if w = 0 then inW else w) = w := given_of_neg columns
  have tall : ¬(if h = 0 then inH else h) < 0 := given_nonneg inH_nonneg rows
  simp [complete, given, wide, tall, columns]

theorem complete_height (inW_nonneg : 0 ≤ inW) (columns : ¬w < 0) (rows : h < 0) :
    complete inW inH w h =
      (given inW w, rescale (given inW w) inH (inW * factor h) * factor h) := by
  have wide : ¬(if w = 0 then inW else w) < 0 := given_nonneg inW_nonneg columns
  have tall : (if h = 0 then inH else h) = h := given_of_neg rows
  simp [complete, given, wide, tall, rows]

theorem complete_given (inW_nonneg : 0 ≤ inW) (inH_nonneg : 0 ≤ inH) (columns : ¬w < 0)
    (rows : ¬h < 0) : complete inW inH w h = (given inW w, given inH h) := by
  have wide : ¬(if w = 0 then inW else w) < 0 := given_nonneg inW_nonneg columns
  have tall : ¬(if h = 0 then inH else h) < 0 := given_nonneg inH_nonneg rows
  simp [complete, given, wide, tall]

end

theorem leading (across along : UInt32) {n m : Int64} (n_le : n.toInt.natAbs ≤ 2147483647)
    (closed : ¬n < 0) (m_le : m.toInt.natAbs ≤ 2147483647) (negative : m < 0) :
    Leading (given along.toUInt64.toInt64 n).toInt across.toUInt64.toInt64.toInt
      along.toUInt64.toInt64.toInt (factor m).toInt := by
  have across_eq := toInt_widen across
  have along_eq := toInt_widen along
  have across_lt := across.toNat_lt
  have along_lt := along.toNat_lt
  have nonneg := given_nonneg (own_nonneg along) closed
  have step := toInt_factor negative (by omega)
  rw [lt_zero_iff] at nonneg negative
  exact ⟨by omega, given_le n_le, by omega, by omega, by omega, by omega, by omega, by omega⟩

theorem given_ge (own : UInt32) {n : Int64} (n_le : n.toInt.natAbs ≤ 2147483647) :
    -2147483647 ≤ (given own.toUInt64.toInt64 n).toInt := by
  unfold given
  split
  case isTrue => exact Int.le_trans (by decide) (zero_le_iff.1 (own_nonneg own))
  case isFalse => omega

/-- A dimension from which the other one follows in a picture of `across` by `along` without
leaving the bounds. -/
structure Moderate (across along n : Int) : Prop where
  nonneg : 0 ≤ n
  le : n ≤ mostFollowing + 2 ^ 30
  mul_le : 0 < along → n * across ≤ mostFollowing * along

theorem moderate_given (across along : UInt32) {n : Int64} (n_le : n.toInt.natAbs ≤ 2147483647)
    (closed : ¬n < 0) :
    Moderate across.toNat along.toNat (given along.toUInt64.toInt64 n).toInt := by
  have leads := leading across along n_le closed (m := -1) (by decide) (by decide)
  have length_le := leads.length_le
  rw [← toInt_widen across, ← toInt_widen along]
  constructor
  case nonneg => exact leads.nonneg
  case le =>
    unfold mostFollowing
    omega
  case mul_le => exact leads.mul_le

theorem moderate_own (across along : UInt32) :
    Moderate across.toNat along.toNat along.toUInt64.toInt64.toInt :=
  moderate_given across along (n := 0) (by decide) (by decide)

theorem moderate_following {across along : UInt32} {a f : Int64}
    (leads : Leading a.toInt across.toUInt64.toInt64.toInt along.toUInt64.toInt64.toInt f.toInt) :
    Moderate along.toNat across.toNat
      (rescale a across.toUInt64.toInt64 (along.toUInt64.toInt64 * f) * f).toInt := by
  rw [← toInt_widen across, ← toInt_widen along]
  obtain along_pos | along_zero := Int.lt_or_eq_of_le leads.along_nonneg
  · have most := leads.multiple_le along_pos
    have step_le := leads.step_le
    rw [leads.toInt_multiple along_pos]
    constructor
    case nonneg => exact (leads.multiple_fits along_pos).1
    case le => omega
    case mul_le => exact fun _ => leads.multiple_mul_le along_pos
  · rw [rescale, if_pos (leads.divisor_eq_zero along_zero.symm), Int64.zero_mul, Int64.toInt_zero]
    constructor
    case nonneg => exact Int.le_refl _
    case le => decide
    case mul_le =>
      intro across_pos
      rw [Int.zero_mul]
      exact Int.mul_nonneg (by decide) leads.across_nonneg

theorem moderate_complete (inW inH : UInt32) {w h : Int64} (w_le : w.toInt.natAbs ≤ 2147483647)
    (h_le : h.toInt.natAbs ≤ 2147483647) :
    Moderate inH.toNat inW.toNat
        (complete inW.toUInt64.toInt64 inH.toUInt64.toInt64 w h).1.toInt ∧
      Moderate inW.toNat inH.toNat
        (complete inW.toUInt64.toInt64 inH.toUInt64.toInt64 w h).2.toInt := by
  have inW_nonneg := own_nonneg inW
  have inH_nonneg := own_nonneg inH
  by_cases columns : w < 0
  · by_cases rows : h < 0
    · rw [complete_open columns rows inW_nonneg inH_nonneg]
      exact ⟨moderate_own inH inW, moderate_own inW inH⟩
    · rw [complete_width columns inH_nonneg rows]
      exact ⟨moderate_following (leading inW inH h_le rows w_le columns),
        moderate_given inW inH h_le rows⟩
  · by_cases rows : h < 0
    · rw [complete_height inW_nonneg columns rows]
      exact ⟨moderate_given inH inW w_le columns,
        moderate_following (leading inH inW w_le columns h_le rows)⟩
    · rw [complete_given inW_nonneg inH_nonneg columns rows]
      exact ⟨moderate_given inH inW w_le columns, moderate_given inW inH h_le rows⟩

end VideoScaler.Dimensions
