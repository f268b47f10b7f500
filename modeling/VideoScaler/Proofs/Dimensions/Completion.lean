import Mathlib.Algebra.Order.Group.Unbundled.Int
import VideoScaler.Proofs.Dimensions.Bounds

/-! Dimensions that are left open.

A dimension that is left open follows from the one that is given by the shape of the input: it is
the nearest multiple of what is asked for. The definition rounds a quotient by the product of the
input's extent and the multiple, so that the multiple is nearest is a fact about one rounding.
-/

set_option autoImplicit false

namespace VideoScaler.Dimensions

/-- The multiple of `step` that is nearest to the quotient of `num` by `den`, and the greater one
of two that are equally near. -/
structure NearestMultiple (step num den length : ℤ) : Prop where
  multiple : step ∣ length
  within : |length * den - num| * 2 ≤ step * den
  nearest : ∀ other, step ∣ other → |length * den - num| ≤ |other * den - num|
  upward : ∀ other, step ∣ other → length < other → |length * den - num| < |other * den - num|

section
variable {num den span quotient other : ℤ}

theorem lt_two_mul_roundQuotient (above : 0 ≤ num) (positive : 0 < den) :
    2 * num < 2 * (roundQuotient num den * den) + den := by
  obtain ⟨n, rfl⟩ := Int.eq_ofNat_of_zero_le above
  obtain ⟨d, rfl⟩ := Int.eq_ofNat_of_zero_le (Int.le_of_lt positive)
  have d_pos : 0 < d := by exact_mod_cast positive
  rw [roundQuotient_ofNat]
  have next : n + d / 2 < (n + d / 2) / d * d + d := Nat.lt_div_mul_add d_pos
  have half : 2 * n < 2 * ((n + d / 2) / d * d) + d := by omega
  exact_mod_cast half

theorem mul_add_le_of_lt (positive : 0 < span) (less : quotient < other) :
    quotient * span + span ≤ other * span := by
  calc quotient * span + span = (quotient + 1) * span := by ring
    _ ≤ other * span := Int.mul_le_mul_of_nonneg_right less (Int.le_of_lt positive)

theorem abs_rounded_le (low : 2 * (quotient * span) ≤ 2 * num + span)
    (high : 2 * num < 2 * (quotient * span) + span) : |quotient * span - num| * 2 ≤ span := by
  rw [Int.abs_eq_natAbs]
  omega

theorem abs_rounded_lt (high : 2 * num < 2 * (quotient * span) + span) (positive : 0 < span)
    (less : quotient < other) : |quotient * span - num| < |other * span - num| := by
  have beyond := mul_add_le_of_lt positive less
  rw [Int.abs_eq_natAbs, Int.abs_eq_natAbs]
  omega

theorem abs_rounded_nearest (low : 2 * (quotient * span) ≤ 2 * num + span)
    (high : 2 * num < 2 * (quotient * span) + span) (positive : 0 < span) :
    |quotient * span - num| ≤ |other * span - num| := by
  obtain less | rfl | greater := Int.lt_trichotomy other quotient
  · have apart := mul_add_le_of_lt positive less
    rw [Int.abs_eq_natAbs, Int.abs_eq_natAbs]
    omega
  · exact Int.le_refl _
  · exact Int.le_of_lt (abs_rounded_lt high positive greater)

end

theorem nearestMultiple_roundQuotient {step num den : ℤ} (above : 0 ≤ num) (den_pos : 0 < den)
    (step_pos : 0 < step) :
    NearestMultiple step num den (roundQuotient num (den * step) * step) := by
  have positive : 0 < den * step := Int.mul_pos den_pos step_pos
  have low := two_mul_roundQuotient_le above positive
  have high := lt_two_mul_roundQuotient above positive
  have regroup : ∀ k : ℤ, k * step * den = k * (den * step) := fun k => by ring
  constructor
  case multiple => exact Int.dvd_mul_left _ _
  case within =>
    rw [regroup, Int.mul_comm step den]
    exact abs_rounded_le low high
  case nearest =>
    rintro _ ⟨k, rfl⟩
    rw [Int.mul_comm step k, regroup, regroup]
    exact abs_rounded_nearest low high positive
  case upward =>
    rintro _ ⟨k, rfl⟩ less
    rw [Int.mul_comm step k] at less ⊢
    rw [regroup, regroup]
    exact abs_rounded_lt high positive (Int.lt_of_mul_lt_mul_right less (Int.le_of_lt step_pos))

/-- What dimensions come to in a picture of `inW` by `inH`. A negative one is left open; `-n` asks
for a multiple of `n`. Zero is the picture's own extent. -/
structure Completes (inW inH w h width height : ℤ) : Prop where
  bothOpen : w < 0 → h < 0 → width = inW ∧ height = inH
  widthOpen : w < 0 → 0 ≤ h → height = (if h = 0 then inH else h) ∧
    NearestMultiple (-w) (height * inW) inH width
  heightOpen : 0 ≤ w → h < 0 → width = (if w = 0 then inW else w) ∧
    NearestMultiple (-h) (width * inH) inW height
  noneOpen : 0 ≤ w → 0 ≤ h → width = (if w = 0 then inW else w) ∧
    height = (if h = 0 then inH else h)

theorem toInt_given (own : UInt32) (n : Int64) :
    (given own.toUInt64.toInt64 n).toInt = if n.toInt = 0 then (own.toNat : ℤ) else n.toInt := by
  have zero : n.toInt = 0 ↔ n = 0 := by
    rw [← Int64.toInt_zero]
    exact Int64.toInt_inj
  simp only [given, zero, ← toInt_widen]
  exact apply_ite Int64.toInt _ _ _

theorem nearestMultiple_leading {across along : UInt32} {n m : Int64} (along_pos : 1 ≤ along.toNat)
    (n_le : n.toInt.natAbs ≤ 2147483647) (closed : ¬n < 0) (m_le : m.toInt.natAbs ≤ 2147483647)
    (negative : m < 0) :
    NearestMultiple (-m.toInt) ((given along.toUInt64.toInt64 n).toInt * across.toNat) along.toNat
      (rescale (given along.toUInt64.toInt64 n) across.toUInt64.toInt64
        (along.toUInt64.toInt64 * factor m) * factor m).toInt := by
  have leads := leading across along n_le closed m_le negative
  have along_eq := toInt_widen along
  have step := toInt_factor negative (by omega)
  have negative := lt_zero_iff.1 negative
  rw [leads.toInt_multiple (by omega), step, along_eq, toInt_widen across]
  apply nearestMultiple_roundQuotient
  · exact Int.mul_nonneg leads.nonneg (Int.natCast_nonneg _)
  · omega
  · omega

theorem complete_completes {inW inH : UInt32} {w h : Int64} (columns : 1 ≤ inW.toNat)
    (rows : 1 ≤ inH.toNat) (w_le : w.toInt.natAbs ≤ 2147483647)
    (h_le : h.toInt.natAbs ≤ 2147483647) :
    Completes inW.toNat inH.toNat w.toInt h.toInt
      (complete inW.toUInt64.toInt64 inH.toUInt64.toInt64 w h).1.toInt
      (complete inW.toUInt64.toInt64 inH.toUInt64.toInt64 w h).2.toInt := by
  have inW_nonneg := own_nonneg inW
  have inH_nonneg := own_nonneg inH
  constructor
  case bothOpen =>
    intro wide tall
    rw [complete_open (lt_zero_iff.2 wide) (lt_zero_iff.2 tall) inW_nonneg inH_nonneg]
    exact ⟨toInt_widen inW, toInt_widen inH⟩
  case widthOpen =>
    intro wide tall
    have closed : ¬h < 0 := Int64.not_lt.2 (zero_le_iff.2 tall)
    rw [complete_width (lt_zero_iff.2 wide) inH_nonneg closed]
    exact ⟨toInt_given inH h, nearestMultiple_leading rows h_le closed w_le (lt_zero_iff.2 wide)⟩
  case heightOpen =>
    intro wide tall
    have closed : ¬w < 0 := Int64.not_lt.2 (zero_le_iff.2 wide)
    rw [complete_height inW_nonneg closed (lt_zero_iff.2 tall)]
    exact ⟨toInt_given inW w,
      nearestMultiple_leading columns w_le closed h_le (lt_zero_iff.2 tall)⟩
  case noneOpen =>
    intro wide tall
    rw [complete_given inW_nonneg inH_nonneg (Int64.not_lt.2 (zero_le_iff.2 wide))
      (Int64.not_lt.2 (zero_le_iff.2 tall))]
    exact ⟨toInt_given inW w, toInt_given inH h⟩

/-- Whatever two texts come to is completed: what they leave open follows from the shape of the
input, and what they give is kept. -/
theorem requested_completes {columns rows : String} {input : Input} {w h : Int64}
    (wide : 1 ≤ input.width.toNat) (tall : 1 ≤ input.height.toNat)
    (asks : Asks columns rows input w h) :
    ∃ width height, requested columns rows input = .ok (width, height) ∧
      Completes input.width.toNat input.height.toNat w.toInt h.toInt width.toInt height.toInt := by
  obtain ⟨w_le, h_le⟩ := asks.natAbs_le
  exact ⟨_, _, asks.requested_eq, complete_completes wide tall w_le h_le⟩

theorem parse_negative_ih : Expression.parse "-ih" = .ok ⟨"-ih", .neg (.var .inH)⟩ := by
  have scanned : (Expression.Token.scan ['-', 'i', 'h']).map Expression.Lexeme.token =
      [.minus, .word "ih"] := by
    rw [Expression.Token.scan_cons (t := .minus) (n := 0) rfl rfl, List.drop_zero,
      Expression.Token.scan_cons (t := .word "ih") (n := 1) rfl rfl, List.drop_one,
      List.tail_cons, Expression.Token.scan]
    rfl
  exact Expression.parse_of_scan scanned (.product (.signed (.neg (.operand (.var rfl)))))

/-- The multiples of two on both sides of three are equally near. -/
theorem completes_three_by_two :
    Asks "-ih" "ih" ⟨3, 2, .unset, .nv12, .nv12⟩ (-2) 2 ∧
      requested "-ih" "ih" ⟨3, 2, .unset, .nv12, .nv12⟩ = .ok (4, 2) ∧
      Completes 3 2 (-2) 2 4 2 := by
  have wide : toInteger ⟨"-ih", .neg (.var .inH)⟩ (-(2 : UInt32).toFloat) = .ok (-2) :=
    toInteger_ok (by decide +kernel) (show _ = (-2 : Int) by decide +kernel)
  have tall : toInteger ⟨"ih", .var .inH⟩ (2 : UInt32).toFloat = .ok 2 :=
    toInteger_ok (by decide +kernel) (show _ = (2 : Int) by decide +kernel)
  have asks : Asks "-ih" "ih" ⟨3, 2, .unset, .nv12, .nv12⟩ (-2) 2 :=
    ⟨_, _, parse_negative_ih, parse_ih, wide, tall⟩
  obtain ⟨width, height, asked, completes⟩ :=
    requested_completes (show 1 ≤ (3 : UInt32).toNat by decide)
      (show 1 ≤ (2 : UInt32).toNat by decide) asks
  have completed : complete 3 2 (-2) 2 = (4, 2) := by decide
  have same := Except.ok.inj (asks.requested_eq.symm.trans asked)
  have sizes : (width, height) = (4, 2) := same.symm.trans completed
  obtain ⟨rfl, rfl⟩ := Prod.mk.inj sizes
  exact ⟨asks, asked, completes⟩

end VideoScaler.Dimensions
