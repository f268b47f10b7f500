import VideoScaler.Proofs.Ratio.Terms
import VideoScaler.Resolution

/-! Pictures on display.

Samples need not be square: a picture shows the proportions of its size times the shape of its
samples. This shape changes with the size so that what is shown stays the same.
-/

set_option autoImplicit false

namespace VideoScaler

namespace Resolution

structure Proper (r : Resolution) : Prop where
  width_pos : 0 < r.width.toNat
  height_pos : 0 < r.height.toNat

structure Target (r : Resolution) : Prop extends r.Proper where
  width_le : r.width.toNat ≤ 2147483647
  height_le : r.height.toNat ≤ 2147483647

def proportion (r : Resolution) : ℚ :=
  r.width.toNat / r.height.toNat

theorem Proper.proportion_ne_zero {r : Resolution} (proper : r.Proper) : r.proportion ≠ 0 :=
  div_ne_zero (Nat.cast_ne_zero.2 proper.width_pos.ne') (Nat.cast_ne_zero.2 proper.height_pos.ne')

end Resolution

namespace Ratio

variable {a b c : Resolution} {s : Ratio}

theorem toInt_mul_sides {m n : UInt32} (m_le : m.toNat ≤ 2147483647) :
    (m.toUInt64.toInt64 * n.toUInt64.toInt64).toInt = m.toNat * n.toNat := by
  have n_lt := n.toNat_lt
  rw [Dimensions.toInt_mul_of_bounds, Dimensions.toInt_widen, Dimensions.toInt_widen] <;>
    rw [Dimensions.toInt_widen, Dimensions.toInt_widen] <;> nlinarith

/-- Where nothing that is computed exceeds the limit, the shape of samples changes exactly. -/
theorem lowest_rescale (set : s.isSet = true) (pos : 0 < s.den) (proper : a.Proper)
    (target : b.Target) (factor : Fits (a.proportion / b.proportion))
    (result : Fits (s.toRat * (a.proportion / b.proportion))) :
    (s.rescale a b).Lowest (s.toRat * (a.proportion / b.proportion)) := by
  have num_eq := toInt_mul_sides (n := a.width) target.height_le
  have den_eq := toInt_mul_sides (n := a.height) target.width_le
  have quotient_eq : quotient (b.height.toUInt64.toInt64 * a.width.toUInt64.toInt64)
      (b.width.toUInt64.toInt64 * a.height.toUInt64.toInt64) = a.proportion / b.proportion := by
    rw [quotient, num_eq, den_eq, Resolution.proportion, Resolution.proportion]
    push_cast
    rw [div_div_div_eq, mul_comm (a.width.toNat : ℚ), mul_comm (a.height.toNat : ℚ)]
  have some : b.width.toUInt64.toInt64 * a.height.toUInt64.toInt64 ≠ 0 := by
    intro none
    have product := Nat.mul_pos target.width_pos proper.height_pos
    rw [none, Int64.toInt_zero] at den_eq
    omega
  have lowest := lowest_reduce some (quotient_eq ▸ factor)
  rw [quotient_eq] at lowest
  rw [← lowest.toRat_eq] at result ⊢
  rw [rescale, if_pos set]
  exact lowest_mul pos lowest.den_pos result

/-- Whatever two integers are reduced is in lowest terms if these fit. Therefore, where nothing
that is computed exceeds the limit, a picture keeps its proportions on display when its size
changes, two changes are the same as one, and no change but for reduction is made to the shape
of samples when the size stays the same. -/
theorem keeps_display_aspect :
    (∀ num den : Int64, den ≠ 0 → Fits (quotient num den) →
      (reduce num den).Lowest (quotient num den)) ∧
    ∀ (s : Ratio) (a b c : Resolution), s.isSet = true → 0 < s.den → a.Proper → b.Target →
      c.Target →
      (Fits (a.proportion / b.proportion) → Fits (s.toRat * (a.proportion / b.proportion)) →
        (s.rescale a b).toRat * b.proportion = s.toRat * a.proportion) ∧
      (Fits (a.proportion / b.proportion) → Fits (b.proportion / c.proportion) →
        Fits (a.proportion / c.proportion) → Fits (s.toRat * (a.proportion / b.proportion)) →
        Fits (s.toRat * (a.proportion / c.proportion)) →
        (s.rescale a b).rescale b c = s.rescale a c) ∧
      (Fits s.toRat → (s.rescale b b).Lowest s.toRat) := by
  refine ⟨fun num den => lowest_reduce, fun s a b c set pos proper target next => ⟨?_, ?_, ?_⟩⟩
  · intro factor result
    have rescaled := lowest_rescale set pos proper target factor result
    rw [rescaled.toRat_eq, mul_assoc, div_mul_cancel₀ _ target.proportion_ne_zero]
  · intro first second whole half result
    have rescaled := lowest_rescale set pos proper target first half
    have direct := lowest_rescale set pos proper next whole result
    have chain : s.toRat * (a.proportion / b.proportion) * (b.proportion / c.proportion)
        = s.toRat * (a.proportion / c.proportion) := by
      rw [mul_assoc, div_mul_div_cancel₀ target.proportion_ne_zero]
    have stillSet : (s.rescale a b).isSet = true := rescaled.isSet_iff.2
      (mul_ne_zero (toRat_ne_zero set pos)
        (div_ne_zero proper.proportion_ne_zero target.proportion_ne_zero))
    rw [← chain, ← rescaled.toRat_eq] at result direct
    exact (lowest_rescale stillSet rescaled.den_pos target.toProper next second result).unique
      direct
  · intro fits
    have one : b.proportion / b.proportion = 1 := div_self target.proportion_ne_zero
    have rescaled := lowest_rescale set pos target.toProper target
      (by rw [one]; decide) (by rwa [one, mul_one])
    rwa [one, mul_one] at rescaled

theorem keeps_display_aspect_standard :
    ((⟨16, 15⟩ : Ratio).rescale ⟨720, 576⟩ ⟨768, 576⟩).toRat
        * (⟨768, 576⟩ : Resolution).proportion
      = (⟨16, 15⟩ : Ratio).toRat * (⟨720, 576⟩ : Resolution).proportion ∧
    ((⟨16, 15⟩ : Ratio).rescale ⟨720, 576⟩ ⟨768, 576⟩).rescale ⟨768, 576⟩ ⟨640, 480⟩
      = (⟨16, 15⟩ : Ratio).rescale ⟨720, 576⟩ ⟨640, 480⟩ ∧
    ((⟨16, 15⟩ : Ratio).rescale ⟨768, 576⟩ ⟨768, 576⟩).Lowest (⟨16, 15⟩ : Ratio).toRat := by
  have proper : (⟨720, 576⟩ : Resolution).Proper := ⟨by decide, by decide⟩
  have square : (⟨768, 576⟩ : Resolution).Target := ⟨⟨by decide, by decide⟩, by decide, by decide⟩
  have small : (⟨640, 480⟩ : Resolution).Target := ⟨⟨by decide, by decide⟩, by decide, by decide⟩
  obtain ⟨shown, chained, same⟩ := keeps_display_aspect.2 ⟨16, 15⟩ _ _ _ (by decide) (by decide)
    proper square small
  have first : Fits ((⟨720, 576⟩ : Resolution).proportion / (⟨768, 576⟩ : Resolution).proportion) :=
    by decide +kernel
  have half : Fits ((⟨16, 15⟩ : Ratio).toRat
      * ((⟨720, 576⟩ : Resolution).proportion / (⟨768, 576⟩ : Resolution).proportion)) :=
    by decide +kernel
  exact ⟨shown first half, chained first (by decide +kernel) (by decide +kernel) half
    (by decide +kernel), same (by decide +kernel)⟩

/-- The least numerator has no counterpart above zero, and so it is past the limit: a ratio with
it is in lowest terms, and is halved all the same when the size stays as it is. -/
theorem rescale_least_numerator :
    (⟨-2147483648, 1⟩ : Ratio).Lowest (-2147483648) ∧ (⟨1, 1⟩ : Resolution).Target ∧
      (⟨-2147483648, 1⟩ : Ratio).rescale ⟨1, 1⟩ ⟨1, 1⟩ = ⟨-1073741824, 1⟩ ∧
      ¬ ((⟨-2147483648, 1⟩ : Ratio).rescale ⟨1, 1⟩ ⟨1, 1⟩).Lowest (-2147483648) := by
  have halved : (⟨-2147483648, 1⟩ : Ratio).rescale ⟨1, 1⟩ ⟨1, 1⟩ = ⟨-1073741824, 1⟩ := by
    decide +kernel
  refine ⟨⟨rfl, rfl⟩, ⟨⟨by decide, by decide⟩, by decide, by decide⟩, halved, ?_⟩
  rw [halved]
  intro lowest
  exact absurd lowest.num_eq (by decide)

end Ratio

end VideoScaler
