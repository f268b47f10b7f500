import Mathlib.Data.Nat.Size
import VideoScaler.Proofs.Dimensions.Overflow
import VideoScaler.Proofs.Ratio.Terms

/-! What halving leaves of a ratio.

Lowest terms that do not fit are halved together until they do. This is a division of both by a
power of two, and so the result is in lowest terms again, and not zero, only if these quotients
are. An integer without a counterpart of the other sign gets no result in 64 bits.
-/

set_option autoImplicit false

namespace VideoScaler.Ratio

open Dimensions (narrow?)

variable {num den : Int64} {a b : Ratio} {q : ℚ}

/-- How many times terms of these magnitudes are halved: until each has at most 31 bits. -/
def halvings (num den : Nat) : Nat :=
  max num.size den.size - 31

theorem halvings_eq_zero {m n : Nat} (m_le : m ≤ 2147483647) (n_le : n ≤ 2147483647) :
    halvings m n = 0 := by
  have m_size := Nat.size_le.2 (show m < 2 ^ 31 by omega)
  have n_size := Nat.size_le.2 (show n < 2 ^ 31 by omega)
  rw [halvings]
  omega

theorem size_div_two (n : Nat) : (n / 2).size = n.size - 1 := by
  refine eq_of_forall_ge_iff fun bound => ?_
  rw [Nat.sub_le_iff_le_add, Nat.size_le, Nat.size_le, pow_succ]
  omega

theorem halvings_div_two {m n : Nat} (exceeds : 2147483647 < m ∨ 2147483647 < n) :
    halvings m n = halvings (m / 2) (n / 2) + 1 := by
  have large : 31 < m.size ∨ 31 < n.size :=
    exceeds.imp (fun past => Nat.lt_size.2 (by omega)) fun past => Nat.lt_size.2 (by omega)
  rw [halvings, halvings, size_div_two, size_div_two]
  omega

theorem tdiv_tdiv_pow (n : Int) (k : Nat) : (n.tdiv 2).tdiv (2 ^ k) = n.tdiv (2 ^ (k + 1)) := by
  have two : (2 : Int) = (2 : Nat) := rfl
  have nonneg (m : Nat) : ((m : Int).tdiv 2).tdiv (2 ^ k) = (m : Int).tdiv (2 ^ (k + 1)) := by
    rw [two, ← Nat.cast_pow, ← Nat.cast_pow, ← Int.ofNat_tdiv, ← Int.ofNat_tdiv, ← Int.ofNat_tdiv,
      Nat.div_div_eq_div_mul, pow_succ, mul_comm]
  obtain ⟨m, rfl | rfl⟩ := n.eq_nat_or_neg
  · exact nonneg m
  · rw [Int.neg_tdiv, Int.neg_tdiv, Int.neg_tdiv, nonneg]

theorem toInt_div_two (n : Int64) : (n / 2).toInt = n.toInt.tdiv 2 :=
  Int64.toInt_div_of_ne_right n 2 (by decide)

theorem fit_halvings (ne : num.toInt ≠ -2 ^ 63) (nonneg : 0 ≤ den.toInt) :
    (fit num den).1.toInt = num.toInt.tdiv (2 ^ halvings num.toInt.natAbs den.toInt.natAbs) ∧
      (fit num den).2.toInt = den.toInt.tdiv (2 ^ halvings num.toInt.natAbs den.toInt.natAbs) := by
  fun_induction fit num den with
  | case1 num den exceeds ih =>
    rw [exceeds_iff ne] at exceeds
    have num_half := natAbs_toInt_div_two num
    have den_half := Int.tdiv_nonneg nonneg (show 0 ≤ 2 by decide)
    rw [← toInt_div_two] at den_half
    have low := num.le_toInt
    have high := num.toInt_lt
    have halved := ih (by omega) den_half
    rwa [natAbs_toInt_div_two, natAbs_toInt_div_two, toInt_div_two, toInt_div_two, tdiv_tdiv_pow,
      tdiv_tdiv_pow, ← halvings_div_two (by omega)] at halved
  | case2 num den fits =>
    rw [exceeds_iff ne] at fits
    rw [halvings_eq_zero (by omega) (by omega)]
    exact ⟨(Int.tdiv_one _).symm, (Int.tdiv_one _).symm⟩

theorem narrow?_eq_some_iff {n : Int} {m : Int64} : narrow? n = some m ↔ m.toInt = n := by
  rw [narrow?]
  constructor
  · intro result
    split at result
    case isTrue fits =>
      obtain rfl := Option.some.inj result
      exact Int64.toInt_ofInt_of_le fits.1 fits.2
    case isFalse => cases result
  · rintro rfl
    rw [if_pos ⟨m.le_toInt, m.toInt_lt⟩, Int64.ofInt_toInt]

/-- The terms over their greatest common divisor, where negations have to fit in 64 bits. -/
def divided? (num den : Int64) : Option (Int64 × Int64) := do
  let g := Int64.ofNat (num.toInt.gcd den.toInt)
  let num ← narrow? (num.toInt.tdiv g.toInt)
  let den ← narrow? (den.toInt.tdiv g.toInt)
  if den < 0 then
    return (← narrow? (-num.toInt), ← narrow? (-den.toInt))
  else
    return (num, den)

/-- Halve both terms until they fit, where magnitudes have to fit in 64 bits first. -/
def fit? (num den : Int64) : Option (Int64 × Int64) :=
  if num.toInt.natAbs < 2 ^ 63 then
    if limit < num.abs ∨ limit < den then fit? (num / 2) (den / 2) else some (num, den)
  else
    none
termination_by num.toInt.natAbs + den.toInt.natAbs
decreasing_by
  rename_i exceeds
  exact natAbs_halves_lt exceeds

/-- Lowest terms that fit, or nothing where a result in between does not fit in 64 bits. -/
def reduce? (num den : Int64) : Option Ratio :=
  if den = 0 then
    some ⟨if num = 0 then 0 else 1, 0⟩
  else do
    let (num, den) ← divided? num den
    let (num, den) ← fit? num den
    return ⟨num.toInt32, (max den 1).toInt32⟩

theorem gcd_le (num : Int64) (some : den ≠ 0) : num.toInt.gcd den.toInt ≤ 2 ^ 63 := by
  have le := Nat.le_of_dvd (Int.natAbs_pos.2 (toInt_ne_zero some))
    (Nat.gcd_dvd_right num.toInt.natAbs den.toInt.natAbs)
  rw [← Int.gcd_eq_natAbs_gcd_natAbs] at le
  have low := den.le_toInt
  have high := den.toInt_lt
  omega

theorem ofNat_ne_neg_one {g : Nat} (le : g ≤ 2 ^ 63) : Int64.ofNat g ≠ -1 := by
  obtain small | rfl := Nat.lt_or_eq_of_le le
  · intro same
    have g_eq := Int64.toInt_ofNat_of_lt small
    have minus : (-1 : Int64).toInt = -1 := rfl
    rw [same] at g_eq
    omega
  · decide

theorem narrow?_tdiv (n : Int64) {g : Nat} (le : g ≤ 2 ^ 63) :
    narrow? (n.toInt.tdiv (Int64.ofNat g).toInt) = some (n / Int64.ofNat g) :=
  narrow?_eq_some_iff.2 (Int64.toInt_div_of_ne_right _ _ (ofNat_ne_neg_one le))

theorem divided?_eq (some : den ≠ 0) :
    divided? num den
      = do return (← narrow? (quotient num den).num, ← narrow? (quotient num den).den) := by
  obtain ⟨num_eq, den_eq⟩ := signed_terms num some
  have ne := toInt_div_gcd_ne_zero num some
  have le := gcd_le num some
  rw [num_eq, den_eq, divided?]
  simp only [narrow?_tdiv _ le, Option.bind_some, Option.bind_eq_bind]
  split
  case isTrue below =>
    rw [Int64.lt_iff_toInt_lt, Int64.toInt_zero] at below
    rw [Int.sign_eq_neg_one_of_neg below, Int.neg_one_mul, Int.neg_one_mul]
  case isFalse nonneg =>
    rw [Int64.lt_iff_toInt_lt, Int64.toInt_zero] at nonneg
    rw [Int.sign_eq_one_of_pos (by omega), Int.one_mul, Int.one_mul, narrow?_eq_some_iff.2 rfl,
      narrow?_eq_some_iff.2 rfl]
    rfl

theorem fit?_eq (num den : Int64) :
    fit? num den = if num.toInt.natAbs < 2 ^ 63 then some (fit num den) else none := by
  split
  case isTrue fits =>
    fun_induction fit num den with
    | case1 num den exceeds ih =>
      have half := natAbs_toInt_div_two num
      rw [fit?, if_pos fits, if_pos exceeds, ih (by omega)]
    | case2 num den stays => rw [fit?, if_pos fits, if_neg stays]
  case isFalse unfit => rw [fit?, if_neg unfit]

/-- Results in between fit unless a term has the magnitude of the least integer. -/
theorem reduce?_eq_some_iff {r : Ratio} (den_ne : den ≠ 0) :
    reduce? num den = some r ↔
      ((quotient num den).num.natAbs < 2 ^ 63 ∧ (quotient num den).den < 2 ^ 63) ∧
        reduce num den = r := by
  rw [reduce?, if_neg den_ne, divided?_eq den_ne, reduce_eq den_ne, divided_eq den_ne]
  generalize quotient num den = q
  simp only [Option.bind_eq_bind, Option.bind_eq_some_iff, narrow?_eq_some_iff, fit?_eq,
    Option.pure_def, Option.some.injEq, Option.ite_none_right_eq_some]
  constructor
  · rintro ⟨-, ⟨n, n_eq, d, d_eq, rfl⟩, -, ⟨fits, rfl⟩, rfl⟩
    have high := d.toInt_lt
    rw [← n_eq, ← d_eq, Int64.ofInt_toInt, Int64.ofInt_toInt]
    exact ⟨⟨fits, by omega⟩, rfl⟩
  · rintro ⟨⟨num_lt, den_lt⟩, rfl⟩
    have num_eq : (Int64.ofInt q.num).toInt = q.num :=
      Int64.toInt_ofInt_of_le (by omega) (by omega)
    have den_eq : (Int64.ofInt q.den).toInt = q.den :=
      Int64.toInt_ofInt_of_le (by omega) (by omega)
    exact ⟨_, ⟨_, num_eq, _, den_eq, rfl⟩, _, ⟨by rwa [num_eq], rfl⟩, rfl⟩

/-- Is a ratio in lowest terms, with a denominator above zero and the sign of the quotient of two
integers? -/
structure Canonical (r : Ratio) (num den : Int64) : Prop where
  den_pos : 1 ≤ r.den.toInt
  num_le : r.num.toInt.natAbs ≤ 2147483647
  coprime : r.num.toInt.gcd r.den.toInt = 1
  sign_eq : r.num.toInt.sign = num.toInt.sign * den.toInt.sign

def halvedNum (q : ℚ) : Int :=
  q.num.tdiv (2 ^ halvings q.num.natAbs q.den)

def halvedDen (q : ℚ) : Nat :=
  q.den / 2 ^ halvings q.num.natAbs q.den

/-- Do the terms of a number fit in 64 bits, and is what halving makes of them in lowest terms
and not zero unless they are? A denominator that is lost counts as one. -/
structure HalvesCleanly (q : ℚ) : Prop where
  num_lt : q.num.natAbs < 2 ^ 63
  den_lt : q.den < 2 ^ 63
  stays : halvedNum q = 0 → q = 0
  coprime : (halvedNum q).natAbs.Coprime (max (halvedDen q) 1)

theorem natAbs_two_pow (k : Nat) : (2 ^ k : Int).natAbs = 2 ^ k := by
  rw [Int.natAbs_pow]
  rfl

theorem div_halvings_le {n : Nat} (size_le : n.size ≤ max q.num.natAbs.size q.den.size) :
    n / 2 ^ halvings q.num.natAbs q.den ≤ 2147483647 := by
  have lt := Nat.size_le.1 (show n.size ≤ halvings q.num.natAbs q.den + 31 by
    rw [halvings]
    omega)
  rw [pow_add] at lt
  exact Nat.le_of_lt_succ (Nat.div_lt_of_lt_mul lt)

theorem halvedNum_le (q : ℚ) : (halvedNum q).natAbs ≤ 2147483647 := by
  rw [halvedNum, Int.natAbs_tdiv, natAbs_two_pow]
  exact div_halvings_le (le_max_left ..)

theorem halvedDen_le (q : ℚ) : halvedDen q ≤ 2147483647 :=
  div_halvings_le (le_max_right ..)

theorem sign_halvedNum (q : ℚ) : halvedNum q = 0 ∨ (halvedNum q).sign = q.num.sign := by
  have pos : (0 : Int) < 2 ^ halvings q.num.natAbs q.den := Int.pow_pos (by decide)
  have sign_eq := Int.sign_tdiv q.num (2 ^ halvings q.num.natAbs q.den)
  rw [← halvedNum, Int.sign_eq_one_of_pos pos, Int.mul_one] at sign_eq
  split at sign_eq
  case isTrue => exact .inl (Int.sign_eq_zero_iff_zero.1 sign_eq)
  case isFalse => exact .inr sign_eq

theorem sign_halvedNum_iff : (halvedNum q).sign = q.num.sign ↔ (halvedNum q = 0 → q = 0) := by
  constructor
  · intro same none
    rw [none, Int.sign_zero, eq_comm, Int.sign_eq_zero_iff_zero, Rat.num_eq_zero] at same
    exact same
  · intro stays
    obtain none | same := sign_halvedNum q
    · rw [none, stays none]
      rfl
    · exact same

theorem reduce_terms (den_ne : den ≠ 0) (num_lt : (quotient num den).num.natAbs < 2 ^ 63)
    (den_lt : (quotient num den).den < 2 ^ 63) :
    (reduce num den).num.toInt = halvedNum (quotient num den) ∧
      (reduce num den).den.toInt = (max (halvedDen (quotient num den)) 1 : Nat) := by
  rw [reduce_eq den_ne, divided_eq den_ne]
  generalize quotient num den = q at *
  have num_eq : (Int64.ofInt q.num).toInt = q.num :=
    Int64.toInt_ofInt_of_le (by omega) (by omega)
  have den_eq : (Int64.ofInt q.den).toInt = q.den :=
    Int64.toInt_ofInt_of_le (by omega) (by omega)
  have one_eq : (1 : Int64).toInt = 1 := rfl
  have num_le := halvedNum_le q
  have den_le := halvedDen_le q
  have num_ne : (Int64.ofInt q.num).toInt ≠ -2 ^ 63 := by omega
  have den_nonneg : 0 ≤ (Int64.ofInt q.den).toInt := by omega
  obtain ⟨fit_num, fit_den⟩ := fit_halvings num_ne den_nonneg
  rw [num_eq, den_eq, Int.natAbs_natCast] at fit_num fit_den
  have den_halved : (q.den : Int).tdiv (2 ^ halvings q.num.natAbs q.den) = halvedDen q := by
    rw [halvedDen, Int.ofNat_tdiv, Nat.cast_pow]
    rfl
  rw [← halvedNum] at fit_num
  rw [den_halved] at fit_den
  constructor
  · rw [toInt_toInt32] <;> rw [fit_num] <;> omega
  · rw [toInt_toInt32] <;> rw [Dimensions.toInt_max, fit_den, one_eq] <;> omega

theorem Fits.halvesCleanly (fits : Fits q) : HalvesCleanly q := by
  obtain ⟨num_le, den_le⟩ := fits
  have none := halvings_eq_zero num_le den_le
  have num_eq : halvedNum q = q.num := by rw [halvedNum, none, pow_zero, Int.tdiv_one]
  have den_eq : halvedDen q = q.den := by rw [halvedDen, none, pow_zero, Nat.div_one]
  constructor
  case num_lt => omega
  case den_lt => omega
  case stays =>
    rw [num_eq]
    exact Rat.num_eq_zero.1
  case coprime =>
    rw [num_eq, den_eq, Nat.max_eq_left q.den_pos]
    exact q.reduced

theorem sign_quotient (den_ne : den ≠ 0) :
    (quotient num den).num.sign = num.toInt.sign * den.toInt.sign := by
  have pos : (0 : Int) < num.toInt.gcd den.toInt := Int.natCast_pos.2 (gcd_pos num den_ne)
  rw [num_quotient, Int.sign_mul, Int.sign_sign, sign_ediv_of_dvd (Int.gcd_dvd_left ..) pos,
    Int.mul_comm]

/-- Without overflow a ratio is within the limit, and it has no wrong sign. -/
theorem within_of_reduce? {r : Ratio} (den_ne : den ≠ 0) (result : reduce? num den = some r) :
    r = reduce num den ∧ 1 ≤ r.den.toInt ∧ r.num.toInt.natAbs ≤ 2147483647 ∧
      (r.num.toInt = 0 ∨ r.num.toInt.sign = num.toInt.sign * den.toInt.sign) := by
  obtain ⟨⟨num_lt, den_lt⟩, rfl⟩ := (reduce?_eq_some_iff den_ne).1 result
  obtain ⟨num_eq, den_eq⟩ := reduce_terms den_ne num_lt den_lt
  rw [num_eq, den_eq, ← sign_quotient den_ne]
  exact ⟨rfl, by omega, halvedNum_le _, sign_halvedNum _⟩

theorem canonical_reduce_iff (den_ne : den ≠ 0) :
    (∃ r, reduce? num den = some r ∧ r.Canonical num den) ↔
      HalvesCleanly (quotient num den) := by
  constructor
  · rintro ⟨r, result, canonical⟩
    obtain ⟨⟨num_lt, den_lt⟩, rfl⟩ := (reduce?_eq_some_iff den_ne).1 result
    obtain ⟨num_eq, den_eq⟩ := reduce_terms den_ne num_lt den_lt
    have sign_eq := canonical.sign_eq
    have coprime := canonical.coprime
    rw [num_eq, ← sign_quotient den_ne] at sign_eq
    rw [num_eq, den_eq] at coprime
    exact ⟨num_lt, den_lt, sign_halvedNum_iff.1 sign_eq, coprime⟩
  · intro clean
    have result := (reduce?_eq_some_iff den_ne).2 ⟨⟨clean.num_lt, clean.den_lt⟩, rfl⟩
    obtain ⟨num_eq, den_eq⟩ := reduce_terms den_ne clean.num_lt clean.den_lt
    obtain ⟨-, den_pos, num_le, -⟩ := within_of_reduce? den_ne result
    refine ⟨_, result, den_pos, num_le, ?_, ?_⟩
    · rw [num_eq, den_eq]
      exact clean.coprime
    · rw [num_eq, ← sign_quotient den_ne]
      exact sign_halvedNum_iff.2 clean.stays

theorem natAbs_num_le (den_ne : den ≠ 0) :
    (quotient num den).num.natAbs ≤ num.toInt.natAbs := by
  rw [num_quotient, Int.natAbs_mul, Int.natAbs_sign_of_ne_zero (toInt_ne_zero den_ne), one_mul]
  exact Int.natAbs_ediv_le_natAbs ..

theorem den_le_natAbs (num : Int64) (den_ne : den ≠ 0) :
    (quotient num den).den ≤ den.toInt.natAbs := by
  rw [← Int.natAbs_natCast (quotient num den).den, den_quotient den_ne, Int.natAbs_mul,
    Int.natAbs_sign_of_ne_zero (toInt_ne_zero den_ne), one_mul]
  exact Int.natAbs_ediv_le_natAbs ..

theorem natAbs_mul_terms_lt (m n : Int32) : (m.toInt64 * n.toInt64).toInt.natAbs < 2 ^ 63 := by
  have m_ge := m.le_toInt
  have m_lt := m.toInt_lt
  have n_ge := n.le_toInt
  have n_lt := n.toInt_lt
  rw [toInt_mul_terms, Int.natAbs_mul]
  calc m.toInt.natAbs * n.toInt.natAbs
      ≤ 2 ^ 31 * 2 ^ 31 := Nat.mul_le_mul (by omega) (by omega)
    _ < 2 ^ 63 := by decide

theorem isSet_mul_iff (a_pos : 0 < a.den) (b_pos : 0 < b.den) :
    (a.mul b).isSet = true ↔ halvedNum (a.toRat * b.toRat) ≠ 0 := by
  have den_ne := mul_terms_ne_zero a_pos b_pos
  have num_lt := (natAbs_num_le den_ne).trans_lt (natAbs_mul_terms_lt a.num b.num)
  have den_lt := (den_le_natAbs (a.num.toInt64 * b.num.toInt64) den_ne).trans_lt
    (natAbs_mul_terms_lt a.den b.den)
  rw [isSet_iff, mul, (reduce_terms den_ne num_lt den_lt).1, quotient_mul]

/-- Unless it overflows, a reduction gives a ratio within the limit, which is zero or has the sign
of the quotient. It does not overflow and the ratio is canonical exactly if the quotient's terms
fit in 64 bits and halving makes terms of them that are in lowest terms, and not zero unless the
quotient is. A product is set exactly if halving leaves something of its numerator. -/
theorem canonical_iff_halvesCleanly (num den : Int64) (a b : Ratio) (den_ne : den ≠ 0)
    (a_pos : 0 < a.den) (b_pos : 0 < b.den) :
    (∀ r, reduce? num den = some r →
      r = reduce num den ∧ 1 ≤ r.den.toInt ∧ r.num.toInt.natAbs ≤ 2147483647 ∧
        (r.num.toInt = 0 ∨ r.num.toInt.sign = num.toInt.sign * den.toInt.sign)) ∧
    ((∃ r, reduce? num den = some r ∧ r.Canonical num den) ↔
      HalvesCleanly (quotient num den)) ∧
    ((a.mul b).isSet = true ↔ halvedNum (a.toRat * b.toRat) ≠ 0) :=
  ⟨fun _ => within_of_reduce? den_ne, canonical_reduce_iff den_ne, isSet_mul_iff a_pos b_pos⟩

theorem canonical_iff_halvesCleanly_halved :
    (∃ r, reduce? (-3000000000) 1 = some r ∧ r.Canonical (-3000000000) 1) ∧
    ((⟨16, 15⟩ : Ratio).mul ⟨15, 11⟩).isSet = true := by
  have clean : HalvesCleanly (quotient (-3000000000) 1) := by
    constructor <;> decide +kernel
  obtain ⟨-, canonical, isSet⟩ := canonical_iff_halvesCleanly (-3000000000) 1 ⟨16, 15⟩ ⟨15, 11⟩
    (by decide) (by decide) (by decide)
  exact ⟨canonical.2 clean, isSet.2 (by decide +kernel)⟩

/-- Halving leaves nothing of the smaller term of a product, a common divisor of a quotient's
terms, and a quotient of the least integer does not fit at all. -/
theorem reduce_not_canonical :
    (⟨1, 65536⟩ : Ratio).isSet = true ∧ (0 : Int32) < 65536 ∧
      (⟨1, 65536⟩ : Ratio).mul ⟨1, 65536⟩ = ⟨0, 1073741824⟩ ∧
      ((⟨1, 65536⟩ : Ratio).mul ⟨1, 65536⟩).isSet = false ∧
      reduce? 2147483649 4 = some ⟨1073741824, 2⟩ ∧
      reduce? (-9223372036854775808) 3 = none := by
  decide +kernel

end VideoScaler.Ratio
