/-! Ratios of 32-bit integers, used for the shape of samples.

A ratio whose numerator is zero is unset. Products are brought to lowest terms; terms that
do not fit in 32 bits are halved together until they do.
-/

set_option autoImplicit false

namespace VideoScaler

structure Ratio where
  num : Int32
  den : Int32
  deriving DecidableEq, Repr

namespace Ratio

def unset : Ratio := ⟨0, 1⟩

instance : Inhabited Ratio := ⟨unset⟩

def isSet (r : Ratio) : Bool :=
  r.num ≠ 0

def limit : Int64 := 2147483647

theorem natAbs_toInt_div_two (x : Int64) : (x / 2).toInt.natAbs = x.toInt.natAbs / 2 := by
  rw [Int64.toInt_div_of_ne_right x 2 (by decide), Int.natAbs_tdiv]
  rfl

theorem toInt_abs_le (x : Int64) : x.abs.toInt ≤ x.toInt.natAbs := by
  have h : x.abs.toInt = x.toBitVec.abs.toInt := by
    rw [← Int64.toBitVec_abs]
    rfl
  have hx : x.toInt = x.toBitVec.toInt := rfl
  rw [h, hx, BitVec.toInt_abs_eq_ite]
  split
  · have : (BitVec.intMin 64).toInt = -9223372036854775808 := by decide
    omega
  · split <;> omega

/-- A term past the limit is not zero, so halving makes the sum of both smaller. -/
theorem natAbs_halves_lt {num den : Int64} (exceeds : limit < num.abs ∨ limit < den) :
    (num / 2).toInt.natAbs + (den / 2).toInt.natAbs < num.toInt.natAbs + den.toInt.natAbs := by
  rw [natAbs_toInt_div_two, natAbs_toInt_div_two]
  have hl : limit.toInt = 2147483647 := by decide
  rcases exceeds with h | h
  · have := Int64.lt_iff_toInt_lt.1 h
    have := toInt_abs_le num
    omega
  · have := Int64.lt_iff_toInt_lt.1 h
    omega

def fit (num den : Int64) : Int64 × Int64 :=
  if limit < num.abs ∨ limit < den then fit (num / 2) (den / 2) else (num, den)
termination_by num.toInt.natAbs + den.toInt.natAbs
decreasing_by
  rename_i exceeds
  exact natAbs_halves_lt exceeds

/-- The ratio of two integers in lowest terms, with a positive denominator. A ratio to
zero is one to zero, or zero to zero. -/
def reduce (num den : Int64) : Ratio :=
  if den = 0 then
    ⟨if num = 0 then 0 else 1, 0⟩
  else
    let g := Int64.ofNat (max (Nat.gcd num.toInt.natAbs den.toInt.natAbs) 1)
    let (num, den) := (num / g, den / g)
    let (num, den) := if den < 0 then (-num, -den) else (num, den)
    let (num, den) := fit num den
    -- Halving may have left nothing of a small denominator.
    ⟨num.toInt32, (max den 1).toInt32⟩

def mul (a b : Ratio) : Ratio :=
  reduce (a.num.toInt64 * b.num.toInt64) (a.den.toInt64 * b.den.toInt64)

/-- The value as a double; a ratio to zero counts as zero. -/
def toFloat (r : Ratio) : Float :=
  if r.den = 0 then 0 else Float.ofInt r.num.toInt / Float.ofInt r.den.toInt

def text (r : Ratio) : String :=
  toString r.num.toInt ++ ":" ++ toString r.den.toInt

end Ratio

end VideoScaler
