import Mathlib.Algebra.Order.Round
import Mathlib.Data.Rat.Floor
import Mathlib.Tactic.FieldSimp
import VideoScaler.Proofs.Dimensions.Bounds

/-! The shape of the input.

An aspect policy keeps one of the two dimensions that were asked for, and the other one follows
by the shape of the input. The definition bounds each dimension by what follows from the other one,
separately for the two; that only one of them moves is a consequence of rounding being monotone.
-/

set_option autoImplicit false

namespace VideoScaler.Dimensions

theorem roundQuotient_eq_round (n d : Nat) : roundQuotient n d = round ((n : ℚ) / d) := by
  rw [roundQuotient_ofNat, round_eq]
  obtain rfl | positive := Nat.eq_zero_or_pos d
  · norm_num
  · have twice : (n : ℚ) / d + 1 / 2 = ((2 * n + d : Nat) : ℚ) / (2 * d : Nat) := by
      have := positive.ne'
      push_cast
      field_simp
    have halved : (2 * n + d) / 2 = n + d / 2 := by omega
    rw [twice, Rat.floor_natCast_div_natCast, ← Int.natCast_ediv, ← Nat.div_div_eq_div_mul, halved]

theorem round_le_round {x y : ℚ} (le : x ≤ y) : round x ≤ round y := by
  rw [round_eq, round_eq]
  exact Int.floor_mono (by linarith)

/-- The dimension that goes with `length` in a picture of `across` by `along`, to the nearest
integer. A half goes up, and as lengths are not negative this is away from zero. -/
def following (length : ℤ) (across along : Nat) : ℤ :=
  round ((length * across : ℚ) / along)

variable {across along : Nat} {length other : ℤ}

theorem le_following (along_pos : 0 < along) (le : length * along ≤ other * across) :
    length ≤ following other across along := by
  have quotient : (length : ℚ) ≤ (other * across : ℚ) / along := by
    rw [le_div_iff₀ (by exact_mod_cast along_pos)]
    exact_mod_cast le
  calc length = round (length : ℚ) := (round_intCast length).symm
    _ ≤ following other across along := round_le_round quotient

theorem following_le (along_pos : 0 < along) (le : other * across ≤ length * along) :
    following other across along ≤ length := by
  have quotient : (other * across : ℚ) / along ≤ (length : ℚ) := by
    rw [div_le_iff₀ (by exact_mod_cast along_pos)]
    exact_mod_cast le
  calc following other across along ≤ round (length : ℚ) := round_le_round quotient
    _ = length := round_intCast length

theorem following_nonneg (across along : Nat) (nonneg : 0 ≤ length) :
    0 ≤ following length across along := by
  have quotient : (0 : ℚ) ≤ (length * across : ℚ) / along := by positivity
  calc (0 : ℤ) = round (0 : ℚ) := round_zero.symm
    _ ≤ following length across along := round_le_round quotient

theorem following_lt (along_pos : 0 < along) (length_le : length ≤ 2147483647)
    (across_lt : across < 2 ^ 32) : following length across along < 2 ^ 63 - 2 ^ 32 := by
  have most : following length across along ≤ 2147483647 * 4294967295 := by
    apply following_le along_pos
    have : (1 : ℤ) ≤ along := by exact_mod_cast along_pos
    nlinarith
  omega

theorem toInt_rescale {length : Int64} {along : UInt32} (across : UInt32)
    (asked : InRange length.toInt) (along_pos : 0 < along.toNat) :
    (rescale length across.toUInt64.toInt64 along.toUInt64.toInt64).toInt =
      following length.toInt across.toNat along.toNat := by
  have positive : along.toUInt64.toInt64 ≠ 0 := by
    intro zero
    have widened := toInt_widen along
    rw [zero, Int64.toInt_zero] at widened
    omega
  obtain ⟨n, length_eq⟩ := Int.eq_ofNat_of_zero_le (show 0 ≤ length.toInt by unfold InRange at asked; omega)
  have quotient : roundQuotient (length.toInt * across.toNat) along.toNat =
      following length.toInt across.toNat along.toNat := by
    rw [length_eq, ← Int.natCast_mul, roundQuotient_eq_round, following]
    push_cast
    rfl
  have nonneg := following_nonneg across.toNat along.toNat (show 0 ≤ length.toInt by omega)
  have small : following length.toInt across.toNat along.toNat < 2 ^ 63 - 2 ^ 32 :=
    following_lt along_pos asked.2 across.toNat_lt
  rw [rescale, if_neg positive, toInt_widen, toInt_widen, quotient]
  exact Int64.toInt_ofInt_of_le (by omega) (by omega)

def multipleBelow (divisor : Nat) (n : ℤ) : ℤ :=
  ⌊(n : ℚ) / divisor⌋ * divisor

def multipleAbove (divisor : Nat) (n : ℤ) : ℤ :=
  ⌈(n : ℚ) / divisor⌉ * divisor

theorem ceil_div_eq (n : ℤ) {divisor : Nat} (positive : 0 < divisor) :
    ⌈(n : ℚ) / divisor⌉ = (n + divisor - 1) / divisor := by
  have divisor_pos : (0 : ℤ) < divisor := by exact_mod_cast positive
  have low := Int.ediv_mul_le (n + divisor - 1) divisor_pos.ne'
  have high := Int.lt_ediv_add_one_mul_self (n + divisor - 1) divisor_pos
  generalize (n + divisor - 1) / (divisor : ℤ) = quotient at low high ⊢
  have below : (quotient - 1) * divisor < n := by linarith
  have above : n ≤ quotient * divisor := by linarith
  rw [Int.ceil_eq_iff, lt_div_iff₀ (by exact_mod_cast positive),
    div_le_iff₀ (by exact_mod_cast positive)]
  exact ⟨by exact_mod_cast below, by exact_mod_cast above⟩

theorem toInt_below {n d : Int64} {divisor : Nat} (nonneg : 0 ≤ n.toInt)
    (divisor_eq : d.toInt = divisor) (positive : 0 < divisor) :
    (n / d * d).toInt = multipleBelow divisor n.toInt := by
  rw [toInt_div_mul nonneg (by omega), multipleBelow, Rat.floor_intCast_div_natCast, divisor_eq]

theorem toInt_above {n d : Int64} {divisor : Nat} (nonneg : 0 ≤ n.toInt)
    (divisor_eq : d.toInt = divisor) (positive : 0 < divisor)
    (fits : n.toInt + divisor < 2 ^ 63) :
    ((n + d - 1) / d * d).toInt = multipleAbove divisor n.toInt := by
  have sum : (n + d - 1).toInt = n.toInt + divisor - 1 := by
    rw [toInt_add_sub_one, divisor_eq]
    exact Int.bmod_eq_of_le (by omega) (by omega)
  rw [toInt_div_mul (by omega) (by omega), sum, divisor_eq, multipleAbove,
    ceil_div_eq n.toInt positive]

section
variable {w h : ℤ} {inW inH : Nat} (columns : 0 < inW) (rows : 0 < inH)
include columns rows

theorem min_following :
    (min (following h inW inH) w, min (following w inH inW) h) =
      if w * inH ≤ h * inW then (w, following w inH inW) else (following h inW inH, h) := by
  split
  case isTrue flat =>
    rw [min_eq_right (le_following rows flat), min_eq_left (following_le columns flat)]
  case isFalse steep =>
    have steep : h * inW ≤ w * inH := by omega
    rw [min_eq_left (following_le rows steep), min_eq_right (le_following columns steep)]

theorem max_following :
    (max (following h inW inH) w, max (following w inH inW) h) =
      if w * inH ≤ h * inW then (following h inW inH, h) else (w, following w inH inW) := by
  split
  case isTrue flat =>
    rw [max_eq_left (le_following rows flat), max_eq_right (following_le columns flat)]
  case isFalse steep =>
    have steep : h * inW ≤ w * inH := by omega
    rw [max_eq_right (following_le rows steep), max_eq_left (le_following columns steep)]

end

theorem toInt_shrunk {m n d : Int64} {divisor : Nat} (m_nonneg : 0 ≤ m.toInt)
    (n_nonneg : 0 ≤ n.toInt) (divisor_eq : d.toInt = divisor) (positive : 0 < divisor) :
    (min m n / d * d).toInt = multipleBelow divisor (min m.toInt n.toInt) := by
  have nonneg : 0 ≤ (min m n).toInt := by
    rw [toInt_min]
    omega
  rw [toInt_below nonneg divisor_eq positive, toInt_min]

theorem toInt_grown {m n d : Int64} {divisor : Nat} (n_nonneg : 0 ≤ n.toInt)
    (m_fits : m.toInt + divisor < 2 ^ 63) (n_fits : n.toInt + divisor < 2 ^ 63)
    (divisor_eq : d.toInt = divisor) (positive : 0 < divisor) :
    ((max m n + d - 1) / d * d).toInt = multipleAbove divisor (max m.toInt n.toInt) := by
  have nonneg : 0 ≤ (max m n).toInt := by
    rw [toInt_max]
    omega
  have fits : (max m n).toInt + divisor < 2 ^ 63 := by
    rw [toInt_max]
    omega
  rw [toInt_above nonneg divisor_eq positive fits, toInt_max]

/-- Under a policy that keeps the shape of the input, one of the dimensions that were asked for
stays, up to the next multiple, and the other one is the nearest that goes with it. The shape that
was asked for decides which one stays. -/
theorem adjust_keeps_shape {inW inH divisor : UInt32} {w h : Int64} (columns : 1 ≤ inW.toNat)
    (rows : 1 ≤ inH.toNat) (wide : InRange w.toInt) (tall : InRange h.toInt)
    (least : 1 ≤ divisor.toNat) (most : divisor.toNat ≤ 256) :
    (adjust inW inH w h .decrease divisor).map Int64.toInt Int64.toInt =
        (if w.toInt * inH.toNat ≤ h.toInt * inW.toNat then
          (w.toInt, following w.toInt inH.toNat inW.toNat)
        else
          (following h.toInt inW.toNat inH.toNat, h.toInt)).map
            (multipleBelow divisor.toNat) (multipleBelow divisor.toNat) ∧
      (adjust inW inH w h .increase divisor).map Int64.toInt Int64.toInt =
        (if w.toInt * inH.toNat ≤ h.toInt * inW.toNat then
          (following h.toInt inW.toNat inH.toNat, h.toInt)
        else
          (w.toInt, following w.toInt inH.toNat inW.toNat)).map
            (multipleAbove divisor.toNat) (multipleAbove divisor.toNat) := by
  have divisor_eq := toInt_widen divisor
  have w_nonneg : 0 ≤ w.toInt := Int.le_trans (by decide) wide.1
  have h_nonneg : 0 ≤ h.toInt := Int.le_trans (by decide) tall.1
  have byRows := toInt_rescale inW tall rows
  have byColumns := toInt_rescale inH wide columns
  have byRows_nonneg := following_nonneg inW.toNat inH.toNat h_nonneg
  have byColumns_nonneg := following_nonneg inH.toNat inW.toNat w_nonneg
  rw [← byRows] at byRows_nonneg
  rw [← byColumns] at byColumns_nonneg
  unfold adjust
  rw [max_one_divisor least]
  constructor
  · rw [← min_following columns rows, ← byRows, ← byColumns]
    exact Prod.ext (toInt_shrunk byRows_nonneg w_nonneg divisor_eq least)
      (toInt_shrunk byColumns_nonneg h_nonneg divisor_eq least)
  · have byRows_lt : following h.toInt inW.toNat inH.toNat < 2 ^ 63 - 2 ^ 32 :=
      following_lt rows tall.2 inW.toNat_lt
    have byColumns_lt : following w.toInt inH.toNat inW.toNat < 2 ^ 63 - 2 ^ 32 :=
      following_lt columns wide.2 inH.toNat_lt
    have w_le := wide.2
    have h_le := tall.2
    rw [← max_following columns rows, ← byRows, ← byColumns]
    exact Prod.ext (toInt_grown w_nonneg (by omega) (by omega) divisor_eq least)
      (toInt_grown h_nonneg (by omega) (by omega) divisor_eq least)

theorem keeps_shape_five_by_nine :
    InRange (5 : Int64).toInt ∧ InRange (9 : Int64).toInt ∧
      (adjust 2 1 5 9 .decrease 2).map Int64.toInt Int64.toInt =
        (multipleBelow 2 5, multipleBelow 2 3) ∧
      (adjust 2 1 5 9 .increase 2).map Int64.toInt Int64.toInt =
        (multipleAbove 2 18, multipleAbove 2 9) := by
  have wide : InRange (5 : Int64).toInt := ⟨by decide, by decide⟩
  have tall : InRange (9 : Int64).toInt := ⟨by decide, by decide⟩
  have half : following 5 1 2 = 3 := by
    rw [following, round_eq_iff]
    norm_num
  have twice : following 9 2 1 = 18 := by
    rw [following, round_eq_iff]
    norm_num
  have kept := @adjust_keeps_shape 2 1 2 5 9 (by decide) (by decide) wide tall (by decide)
    (by decide)
  rw [if_pos (by decide), if_pos (by decide)] at kept
  refine ⟨wide, tall, ?_⟩
  rw [← half, ← twice]
  exact kept

end VideoScaler.Dimensions
