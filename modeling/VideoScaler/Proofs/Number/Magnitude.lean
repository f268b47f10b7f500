import Mathlib.Algebra.Order.Ring.Int
import VideoScaler.Number.Rounding

/-! How large the integer part of a double is whose magnitude has a bound.

A double is taken apart into sign, mantissa and exponent. The fields of its bits bound the
mantissa, comparison goes by exponent and then by mantissa, and the integer part is the mantissa
without the bits past the point.
-/

set_option autoImplicit false

namespace VideoScaler.Number

open Float.Model (UnpackedFloat Format)
open Float.Model.UnpackedFloat

/-- The forms that the bits of a double are taken apart into. -/
inductive Canonical : UnpackedFloat → Prop where
  | notANumber : Canonical .notANumber
  | infinity (sign : Sign) : Canonical (.infinity sign)
  | zero (sign : Sign) : Canonical (.zero sign)
  | subnormal {sign : Sign} {m : Nat} {positive : 0 < m} (below : m < 2 ^ 52) :
    Canonical (.finite sign m (-1074) positive)
  | normal {sign : Sign} {m : Nat} {e : Int} {positive : 0 < m} (above : 2 ^ 52 ≤ m)
    (below : m < 2 ^ 53) (least : -1074 ≤ e) (most : e ≤ 971) :
    Canonical (.finite sign m e positive)

theorem Canonical.abs {u : UnpackedFloat} (canonical : Canonical u) : Canonical u.abs := by
  cases canonical with
  | notANumber => exact .notANumber
  | infinity sign => exact .infinity _
  | zero sign => exact .zero _
  | subnormal below => exact .subnormal below
  | normal above below least most => exact .normal above below least most

theorem abs_abs (u : UnpackedFloat) : u.abs.abs = u.abs := by
  cases u <;> rfl

theorem toNat_implicit_append (m : BitVec 52) : (1#1 ++ m).toNat = 2 ^ 52 + m.toNat := by
  rw [BitVec.toNat_append, ← Nat.shiftLeft_add_eq_or_of_lt m.isLt]
  rfl

theorem exponentBias_binary64 : Format.binary64.exponentBias = 1023 := rfl

theorem unpackSign_packComponents {format : Format} {sign : Sign}
    {e : BitVec format.exponentBits} {m : BitVec format.mantissaBitsWithoutImplicit} :
    unpackSign (packComponents format sign e m) = sign.toBitVec := by
  apply BitVec.eq_of_getLsbD_eq
  intro i one
  obtain rfl : i = 0 := by omega
  delta unpackSign packComponents
  simp [BitVec.getLsbD_append, BitVec.getElem_append]

/-- The proof that the mantissa is positive does not tell numbers apart. -/
theorem finite_congr {sign : Sign} {m n : Nat} {e f : Int} {left : 0 < m} {right : 0 < n}
    (mantissa : m = n) (exponent : e = f) :
    UnpackedFloat.finite sign m e left = .finite sign n f right := by
  subst mantissa exponent
  rfl

theorem ofBitVec_toBitVec (sign : Sign) : Sign.ofBitVec sign.toBitVec = sign := by
  cases sign <;> rfl

theorem unpack_of_first {b : BitVec Format.binary64.numBits} {sign : Sign} {m : Nat}
    (signed : Sign.ofBitVec (unpackSign b) = sign) (first : unpackExponent b = 0#11)
    (mantissa : (unpackMantissa b).toNat = m) (positive : 0 < m) :
    UnpackedFloat.unpack Format.binary64 b = .finite sign m (-1074) positive := by
  have present : unpackMantissa b ≠ 0#52 := by
    intro none
    rw [none] at mantissa
    exact Nat.ne_of_lt positive mantissa
  unfold UnpackedFloat.unpack
  dsimp only
  rw [if_neg (by rw [first]; decide), if_pos first, dif_neg present, signed]
  exact finite_congr mantissa (by rw [first]; rfl)

theorem unpack_of_between {b : BitVec Format.binary64.numBits} {sign : Sign} {m field : Nat}
    (signed : Sign.ofBitVec (unpackSign b) = sign) (exponent : (unpackExponent b).toNat = field)
    (mantissa : (1#1 ++ unpackMantissa b).toNat = m) (positive : 0 < m) (above : 0 < field)
    (below : field < 2047) :
    UnpackedFloat.unpack Format.binary64 b = .finite sign m (field - 1075) positive := by
  have notFirst : unpackExponent b ≠ 0#11 := by
    intro same
    rw [same] at exponent
    exact Nat.ne_of_lt above exponent
  have notLast : unpackExponent b ≠ -1#11 := by
    intro same
    rw [same] at exponent
    exact Nat.ne_of_gt below exponent
  unfold UnpackedFloat.unpack
  dsimp only
  rw [if_neg notLast, if_neg notFirst, exponentBias_binary64, signed]
  refine finite_congr mantissa ?_
  rw [exponent]
  rfl

theorem canonical_unpack (b : BitVec Format.binary64.numBits) :
    Canonical (UnpackedFloat.unpack Format.binary64 b) := by
  have mantissaBound : (unpackMantissa b).toNat < 2 ^ 52 := (unpackMantissa b).isLt
  have exponentBound : (unpackExponent b).toNat < 2 ^ 11 := (unpackExponent b).isLt
  by_cases last : unpackExponent b = -1#11
  · unfold UnpackedFloat.unpack
    dsimp only
    rw [if_pos last]
    by_cases whole : unpackMantissa b = 0#52
    · rw [if_pos whole]
      exact .infinity _
    · rw [if_neg whole]
      exact .notANumber
  by_cases first : unpackExponent b = 0#11
  · by_cases none : unpackMantissa b = 0#52
    · unfold UnpackedFloat.unpack
      dsimp only
      rw [if_neg last, if_pos first, dif_pos none]
      exact .zero _
    · have positive : 0 < (unpackMantissa b).toNat :=
        Nat.pos_iff_ne_zero.2 fun same => none (BitVec.eq_of_toNat_eq same)
      rw [unpack_of_first rfl first rfl positive]
      exact .subnormal mantissaBound
  · have notLast : (unpackExponent b).toNat ≠ 2 ^ 11 - 1 := fun same =>
      last (BitVec.eq_of_toNat_eq same)
    have notFirst : (unpackExponent b).toNat ≠ 0 := fun same =>
      first (BitVec.eq_of_toNat_eq same)
    have implicit := toNat_implicit_append (unpackMantissa b)
    rw [unpack_of_between rfl rfl rfl (by omega) (by omega) (by omega)]
    exact .normal (by omega) (by omega) (by omega) (by omega)

theorem unpack_subnormal {sign : Sign} {m : Nat} (positive : 0 < m) (below : m < 2 ^ 52) :
    UnpackedFloat.unpack Format.binary64
      (packComponents Format.binary64 sign 0#11 (BitVec.ofNat 52 m)) =
        .finite sign m (-1074) positive := by
  refine unpack_of_first ?_ unpackExponent_packComponents ?_ positive
  · rw [unpackSign_packComponents, ofBitVec_toBitVec]
  · rw [unpackMantissa_packComponents]
    exact (BitVec.toNat_ofNat ..).trans (Nat.mod_eq_of_lt below)

theorem unpack_normal {sign : Sign} {m field : Nat} (positive : 0 < m) (above : 2 ^ 52 ≤ m)
    (below : m < 2 ^ 53) (first : 0 < field) (last : field < 2047) :
    UnpackedFloat.unpack Format.binary64
      (packComponents Format.binary64 sign (BitVec.ofNat 11 field) (BitVec.ofNat 52 m)) =
        .finite sign m (field - 1075) positive := by
  refine unpack_of_between ?_ ?_ ?_ positive first last
  · rw [unpackSign_packComponents, ofBitVec_toBitVec]
  · rw [unpackExponent_packComponents]
    exact (BitVec.toNat_ofNat ..).trans (Nat.mod_eq_of_lt (Nat.lt_succ_of_lt last))
  · rw [unpackMantissa_packComponents]
    refine (toNat_implicit_append _).trans ?_
    rw [BitVec.toNat_ofNat]
    omega

theorem Canonical.unpack_pack {u : UnpackedFloat} (canonical : Canonical u) :
    (Float.Model.pack u).unpack = u := by
  show UnpackedFloat.unpack Format.binary64 (UnpackedFloat.pack Format.binary64 u) = u
  cases canonical with
  | notANumber => rfl
  | infinity sign => cases sign <;> rfl
  | zero sign => cases sign <;> rfl
  | @subnormal sign m positive below =>
    have short : ¬m.log2 + 1 = Format.binary64.mantissaBits := by
      have := (Nat.log2_lt (Nat.pos_iff_ne_zero.1 positive)).2 below
      show ¬m.log2 + 1 = 53
      omega
    delta UnpackedFloat.pack
    dsimp only
    rw [if_neg (by decide), if_neg short]
    exact unpack_subnormal positive below
  | @normal sign m e positive above below least most =>
    have long : m.log2 + 1 = Format.binary64.mantissaBits := by
      have lower := (Nat.le_log2 (Nat.pos_iff_ne_zero.1 positive)).2 above
      have upper := (Nat.log2_lt (Nat.pos_iff_ne_zero.1 positive)).2 below
      show m.log2 + 1 = 53
      omega
    -- The exponent as the bits hold it.
    obtain ⟨field, shifted⟩ := Int.eq_ofNat_of_zero_le (show 0 ≤ e + 1075 by omega)
    obtain rfl : e = field - 1075 := by omega
    have biased : ((field : Int) - 1075 + (Format.binary64.exponentBias : Nat) +
        (Format.binary64.mantissaBitsWithoutImplicit : Nat)).toNat = field := by
      show ((field : Int) - 1075 + (1023 : Nat) + (52 : Nat)).toNat = field
      omega
    delta UnpackedFloat.pack
    dsimp only
    rw [biased, if_neg (by omega), if_pos long]
    exact unpack_normal positive above below (by omega) (by omega)

theorem unpack_abs (x : Float) : x.abs.toModel.unpack = x.toModel.unpack.abs :=
  (canonical_unpack x.toModel.toBits.toBitVec).abs.unpack_pack

theorem shiftRight_mantissa (em : ExtendedMantissa) (n : Nat) :
    (em >>> n).mantissa = em.mantissa / 2 ^ n := by
  induction n with
  | zero => exact (Nat.div_one _).symm
  | succ n ih =>
    have step : (em >>> (n + 1)).mantissa = (em >>> n).mantissa / 2 := rfl
    rw [step, ih, Nat.div_div_eq_div_mul, Nat.pow_succ]

/-- Below the point a number loses the bits of its mantissa that are past it. -/
theorem roundToInt_of_neg (sign : Sign) (m : Nat) {e : Int} (below : e < 0) :
    roundToInt sign m e = sign.apply (m / 2 ^ (-e).toNat : Nat) := by
  have exact : (ExtendedMantissa.ofMantissaAndAccuracy m .exact).mantissa = m := rfl
  have still : decreaseExponent m e 0 = (m, e) := by
    unfold decreaseExponent
    have none : (e - 0).toNat = 0 := by omega
    rw [none]
    simp
  unfold roundToInt
  rw [still]
  unfold shiftToExponent
  dsimp only
  rw [shiftRight_mantissa, exact, Int.zero_sub]

theorem toNat_ofNatClamp_le (n : Nat) : (UInt64.ofNatClamp n).toNat ≤ n := by
  unfold UInt64.ofNatClamp
  split
  case isTrue => exact Nat.le_refl _
  case isFalse large => exact Nat.le_trans (by decide) (Nat.le_of_not_lt large)

theorem toNat_apply_le (sign : Sign) (n : Nat) : (sign.apply n).toNat ≤ n := by
  cases sign with
  | negative =>
    show (-(n : Int)).toNat ≤ n
    omega
  | positive => exact Nat.le_refl _

theorem Canonical.mantissa_lt {sign : Sign} {m : Nat} {e : Int} {positive : 0 < m}
    (canonical : Canonical (.finite sign m e positive)) : m < 2 ^ 53 := by
  cases canonical with
  | subnormal below => omega
  | normal _ below _ _ => exact below

theorem unpack_limit : (2147483647 : Float).toModel.unpack =
    .finite .positive (2147483647 * 2 ^ 22) (-22) (by decide) :=
  rfl

theorem le_limit {m : Nat} {e : Int} {positive : 0 < m}
    (small : UnpackedFloat.le (.finite .positive m e positive)
      (.finite .positive (2147483647 * 2 ^ 22) (-22) (by decide)) = true) :
    e < -22 ∨ e = -22 ∧ m ≤ 2147483647 * 2 ^ 22 := by
  have ordered : ((compare e (-22)).then (compare m (2147483647 * 2 ^ 22))).isLE = true := small
  cases exponents : compare e (-22) with
  | lt => exact .inl (Int.compare_eq_lt.1 exponents)
  | eq =>
    rw [exponents] at ordered
    exact .inr ⟨Int.compare_eq_eq.1 exponents, Nat.isLE_compare.1 ordered⟩
  | gt =>
    rw [exponents] at ordered
    cases ordered

theorem toUInt64_le {u : UnpackedFloat} (canonical : Canonical u)
    (small : u.abs.le (.finite .positive (2147483647 * 2 ^ 22) (-22) (by decide)) = true) :
    u.toUInt64.toNat ≤ 2147483647 := by
  cases u with
  | notANumber => cases small
  | infinity sign => cases small
  | zero sign => exact Nat.zero_le _
  | finite sign m e positive =>
    have bound := canonical.mantissa_lt
    have ordered := le_limit small
    have below : e < 0 := by omega
    have cut : m / 2 ^ (-e).toNat ≤ 2147483647 := by
      obtain lower | ⟨rfl, least⟩ := ordered
      · have steps : 2 ^ 23 ≤ 2 ^ (-e).toNat := Nat.pow_le_pow_right (by decide) (by omega)
        have most : m / 2 ^ (-e).toNat ≤ m / 2 ^ 23 := Nat.div_le_div_left steps (by decide)
        omega
      · exact Nat.div_le_of_le_mul (by rw [Nat.mul_comm]; exact least)
    refine Nat.le_trans (toNat_ofNatClamp_le _) ?_
    show (roundToInt sign m e).toNat ≤ _
    rw [roundToInt_of_neg sign m below]
    exact Nat.le_trans (toNat_apply_le ..) cut

/-- The integer part of a number that is at most the limit is at most the limit. -/
theorem natAbs_integerPart_le {x : Float} (small : x.abs ≤ 2147483647) :
    (integerPart x).natAbs ≤ 2147483647 := by
  have ordered : x.abs.toModel.unpack.le (2147483647 : Float).toModel.unpack = true :=
    of_decide_eq_true small
  rw [unpack_limit, unpack_abs] at ordered
  have canonical := canonical_unpack x.toModel.toBits.toBitVec
  have whole : x.toUInt64.toNat ≤ 2147483647 := toUInt64_le canonical ordered
  have magnitude : x.abs.toUInt64.toNat ≤ 2147483647 := by
    show x.abs.toModel.unpack.toUInt64.toNat ≤ _
    rw [unpack_abs]
    apply toUInt64_le canonical.abs
    rw [abs_abs]
    exact ordered
  unfold integerPart
  split
  case isTrue => omega
  case isFalse => omega

end VideoScaler.Number
