import VideoScaler.Proofs.Dimensions.Bounds

/-! Sizes are computed without overflow.

The arithmetic of sizes is written here over what becomes of the exact result of each operation.
Where results wrap around it is the arithmetic of sizes itself; where a result that does not fit
in 64 bits is refused, no bounded dimensions lead to a refusal.
-/

set_option autoImplicit false

namespace VideoScaler.Dimensions

section
variable {m : Type → Type} [Monad m] (narrow : Int → m Int64)

def rescaleBy (a b c : Int64) : m Int64 :=
  if c = 0 then pure 0 else narrow (roundQuotient (a.toInt * b.toInt) c.toInt)

def factorBy (n : Int64) : m Int64 :=
  if n < -1 then narrow (-n.toInt) else pure 1

def followBy (length across along step : Int64) : m Int64 := do
  let divisor ← narrow (along.toInt * step.toInt)
  let quotient ← rescaleBy narrow length across divisor
  narrow (quotient.toInt * step.toInt)

def completeBy (inW inH w h : Int64) : m (Int64 × Int64) := do
  let w := if w = 0 then inW else w
  let h := if h = 0 then inH else h
  let factorW ← factorBy narrow w
  let factorH ← factorBy narrow h
  let (w, h) := if w < 0 && h < 0 then (inW, inH) else (w, h)
  let w ← if w < 0 then followBy narrow h inW inH factorW else pure w
  let h ← if h < 0 then followBy narrow w inH inW factorH else pure h
  return (w, h)

/-- The multiple of `div` at `n` or next to it, towards zero. -/
def shrinkBy (n div : Int64) : m Int64 := do
  let quotient ← narrow (n.toInt.tdiv div.toInt)
  narrow (quotient.toInt * div.toInt)

def growBy (n div : Int64) : m Int64 := do
  let sum ← narrow (n.toInt + div.toInt)
  let last ← narrow (sum.toInt - 1)
  shrinkBy narrow last div

def adjustBy (inW inH : UInt32) (w h : Int64) (policy : AspectPolicy) (divisor : UInt32) :
    m (Int64 × Int64) :=
  let inW := inW.toUInt64.toInt64
  let inH := inH.toUInt64.toInt64
  let div := (max divisor 1).toUInt64.toInt64
  match policy with
  | .disable => return (w, h)
  | .decrease => do
    let w' ← rescaleBy narrow h inW inH
    let h' ← rescaleBy narrow w inH inW
    return (← shrinkBy narrow (min w' w) div, ← shrinkBy narrow (min h' h) div)
  | .increase => do
    let w' ← rescaleBy narrow h inW inH
    let h' ← rescaleBy narrow w inH inW
    return (← growBy narrow (max w' w) div, ← growBy narrow (max h' h) div)

end

section
variable {m : Type → Type} [Monad m] {narrow : Int → m Int64}

/-- A result is narrowed to the number it is modulo `2 ^ 64`. -/
def Admits (narrow : Int → m Int64) (n : Int) : Prop :=
  narrow n = pure (Int64.ofInt n)

variable {n d : Int64}

theorem Admits.neg (admits : Admits narrow (-n.toInt)) : narrow (-n.toInt) = pure (-n) := by
  rw [admits, Int64.ofInt_neg, Int64.ofInt_toInt]

theorem Admits.add (admits : Admits narrow (n.toInt + d.toInt)) :
    narrow (n.toInt + d.toInt) = pure (n + d) := by
  rw [admits, Int64.ofInt_add, Int64.ofInt_toInt, Int64.ofInt_toInt]

theorem Admits.sub_one (admits : Admits narrow (n.toInt - 1)) :
    narrow (n.toInt - 1) = pure (n - 1) := by
  rw [admits, Int64.ofInt_sub, Int64.ofInt_toInt]
  rfl

theorem Admits.mul (admits : Admits narrow (n.toInt * d.toInt)) :
    narrow (n.toInt * d.toInt) = pure (n * d) := by
  rw [admits, Int64.ofInt_mul, Int64.ofInt_toInt, Int64.ofInt_toInt]

theorem Admits.tdiv (admits : Admits narrow (n.toInt.tdiv d.toInt)) :
    narrow (n.toInt.tdiv d.toInt) = pure (n / d) := by
  rw [admits, Int64.ofInt_tdiv n.minValue_le_toInt n.toInt_le d.minValue_le_toInt d.toInt_le,
    Int64.ofInt_toInt, Int64.ofInt_toInt]

theorem factorBy_eq (admits : Admits narrow (-n.toInt)) : factorBy narrow n = pure (factor n) := by
  rw [factorBy, factor, admits.neg]
  split
  case isTrue => rfl
  case isFalse => rfl

variable {a b c f : Int64}

theorem rescaleBy_eq
    (quotient : c ≠ 0 → Admits narrow (roundQuotient (a.toInt * b.toInt) c.toInt)) :
    rescaleBy narrow a b c = pure (rescale a b c) := by
  rw [rescaleBy, rescale]
  split
  case isTrue => rfl
  case isFalse some => exact quotient some

variable [LawfulMonad m]

theorem followBy_eq (divisor : Admits narrow (c.toInt * f.toInt))
    (quotient : c * f ≠ 0 → Admits narrow (roundQuotient (a.toInt * b.toInt) (c * f).toInt))
    (multiple : Admits narrow ((rescale a b (c * f)).toInt * f.toInt)) :
    followBy narrow a b c f = pure (rescale a b (c * f) * f) := by
  rw [followBy, divisor.mul, pure_bind, rescaleBy_eq quotient, pure_bind, multiple.mul]

theorem shrinkBy_eq (quotient : Admits narrow (n.toInt.tdiv d.toInt))
    (multiple : Admits narrow ((n / d).toInt * d.toInt)) :
    shrinkBy narrow n d = pure (n / d * d) := by
  rw [shrinkBy, quotient.tdiv, pure_bind, multiple.mul]

theorem growBy_eq (sum : Admits narrow (n.toInt + d.toInt))
    (last : Admits narrow ((n + d).toInt - 1)) :
    growBy narrow n d = shrinkBy narrow (n + d - 1) d := by
  rw [growBy, sum.add, pure_bind, last.sub_one, pure_bind]

end

def wrap (n : Int) : Id Int64 :=
  pure (Int64.ofInt n)

theorem admits_wrap (n : Int) : Admits wrap n :=
  rfl

/-- Where results wrap around the arithmetic is the one that sizes are computed with. -/
theorem completeBy_wrap (inW inH w h : Int64) :
    completeBy wrap inW inH w h = pure (complete inW inH w h) := by
  simp only [completeBy, complete, factorBy_eq (admits_wrap _), pure_bind,
    followBy_eq (admits_wrap _) (fun _ => admits_wrap _) (admits_wrap _)]
  generalize (if w = 0 then inW else w) = width
  generalize (if h = 0 then inH else h) = height
  generalize (if (decide (width < 0) && decide (height < 0)) = true then (inW, inH)
    else (width, height)) = size
  by_cases wide : size.1 < 0
  · simp only [wide, if_true, ← apply_ite]
  · simp only [wide, if_false, ← apply_ite]

theorem adjustBy_wrap (inW inH divisor : UInt32) (w h : Int64) (policy : AspectPolicy) :
    adjustBy wrap inW inH w h policy divisor = pure (adjust inW inH w h policy divisor) := by
  cases policy with
  | disable => rfl
  | decrease =>
    simp only [adjustBy, adjust, rescaleBy_eq fun _ => admits_wrap _, pure_bind,
      shrinkBy_eq (admits_wrap _) (admits_wrap _)]
  | increase =>
    simp only [adjustBy, adjust, rescaleBy_eq fun _ => admits_wrap _, pure_bind,
      growBy_eq (admits_wrap _) (admits_wrap _), shrinkBy_eq (admits_wrap _) (admits_wrap _)]

def narrow? (n : Int) : Option Int64 :=
  if -2 ^ 63 ≤ n ∧ n < 2 ^ 63 then some (Int64.ofInt n) else none

theorem admits_of_fits {n : Int} (fits : -2 ^ 63 ≤ n ∧ n < 2 ^ 63) : Admits narrow? n :=
  if_pos fits

theorem factorBy_of_bounded {n : Int64} (least : -2147483647 ≤ n.toInt) :
    factorBy narrow? n = some (factor n) := by
  have range := n.toInt_lt
  exact factorBy_eq (admits_of_fits (by omega))

theorem followBy_of_leading {a b c f : Int64}
    (leads : Leading a.toInt b.toInt c.toInt f.toInt) :
    followBy narrow? a b c f = some (rescale a b (c * f) * f) := by
  have divisor := leads.divisor_fits
  obtain c_pos | c_zero := Int.lt_or_eq_of_le leads.along_nonneg
  · have fits := leads.multiple_fits c_pos
    have low := leads.quotient_nonneg c_pos
    have below := leads.quotient_le_multiple c_pos
    apply followBy_eq
    · exact admits_of_fits (by omega)
    · intro _
      rw [leads.toInt_divisor]
      exact admits_of_fits (by omega)
    · rw [leads.toInt_quotient c_pos]
      exact admits_of_fits (by omega)
  · have none := leads.divisor_eq_zero c_zero.symm
    apply followBy_eq
    · exact admits_of_fits (by omega)
    · exact fun some => absurd none some
    · rw [rescale, if_pos none, Int64.toInt_zero, Int.zero_mul]
      exact admits_of_fits (by decide)

theorem completeBy_of_bounded (inW inH : UInt32) {w h : Int64}
    (w_le : w.toInt.natAbs ≤ 2147483647) (h_le : h.toInt.natAbs ≤ 2147483647) :
    completeBy narrow? inW.toUInt64.toInt64 inH.toUInt64.toInt64 w h =
      some (complete inW.toUInt64.toInt64 inH.toUInt64.toInt64 w h) := by
  have inW_nonneg := own_nonneg inW
  have inH_nonneg := own_nonneg inH
  have factorW := factorBy_of_bounded (given_ge inW w_le)
  have factorH := factorBy_of_bounded (given_ge inH h_le)
  by_cases columns : w < 0
  · by_cases rows : h < 0
    · rw [given_of_neg columns] at factorW
      rw [given_of_neg rows] at factorH
      rw [complete_open columns rows inW_nonneg inH_nonneg]
      simp [completeBy, ite_eq_given, given_of_neg columns, given_of_neg rows, columns, rows,
        factorW, factorH, Int64.not_lt.2 inW_nonneg, Int64.not_lt.2 inH_nonneg]
    · have tall := given_nonneg inH_nonneg rows
      have follows := followBy_of_leading (leading inW inH h_le rows w_le columns)
      rw [given_of_neg columns] at factorW
      rw [complete_width columns inH_nonneg rows]
      simp [completeBy, ite_eq_given, given_of_neg columns, columns, tall, factorW, factorH,
        follows]
  · have wide := given_nonneg inW_nonneg columns
    by_cases rows : h < 0
    · have follows := followBy_of_leading (leading inH inW w_le columns h_le rows)
      rw [given_of_neg rows] at factorH
      rw [complete_height inW_nonneg columns rows]
      simp [completeBy, ite_eq_given, given_of_neg rows, wide, rows, factorW, factorH, follows]
    · have tall := given_nonneg inH_nonneg rows
      rw [complete_given inW_nonneg inH_nonneg columns rows]
      simp [completeBy, ite_eq_given, wide, tall, factorW, factorH]

theorem rescaleBy_of_moderate {across along : UInt32} {n : Int64}
    (moderate : Moderate across.toNat along.toNat n.toInt) :
    rescaleBy narrow? n across.toUInt64.toInt64 along.toUInt64.toInt64 =
        some (rescale n across.toUInt64.toInt64 along.toUInt64.toInt64) ∧
      0 ≤ (rescale n across.toUInt64.toInt64 along.toUInt64.toInt64).toInt ∧
      (rescale n across.toUInt64.toInt64 along.toUInt64.toInt64).toInt ≤ mostFollowing := by
  have across_eq := toInt_widen across
  have along_eq := toInt_widen along
  by_cases none : along.toUInt64.toInt64 = 0
  · rw [rescaleBy, rescale, if_pos none, if_pos none]
    exact ⟨rfl, by decide, by decide⟩
  · have along_pos : 0 < (along.toNat : Int) := by
      have some : along.toUInt64.toInt64.toInt ≠ (0 : Int64).toInt := fun same =>
        none (Int64.toInt_inj.1 same)
      rw [Int64.toInt_zero] at some
      omega
    have above : 0 ≤ n.toInt * across.toNat :=
      Int.mul_nonneg moderate.nonneg (Int.natCast_nonneg _)
    have low := roundQuotient_nonneg above along_pos
    have high := roundQuotient_mul_le (f := 1) above along_pos (by decide)
      (moderate.mul_le along_pos)
    rw [Int.mul_one, Int.mul_one] at high
    have fits : roundQuotient (n.toInt * across.toNat) along.toNat < 2 ^ 63 := by
      unfold mostFollowing at high
      omega
    have quotient : (rescale n across.toUInt64.toInt64 along.toUInt64.toInt64).toInt =
        roundQuotient (n.toInt * across.toNat) along.toNat := by
      rw [rescale, if_neg none, across_eq, along_eq]
      exact Int64.toInt_ofInt_of_le (by omega) fits
    refine ⟨rescaleBy_eq fun _ => ?_, by omega, by omega⟩
    rw [across_eq, along_eq]
    exact admits_of_fits (by omega)

section
variable {n d : Int64} (nonneg : 0 ≤ n.toInt) (positive : 1 ≤ d.toInt)
include nonneg positive

theorem shrinkBy_of_bounded : shrinkBy narrow? n d = some (n / d * d) := by
  have below := multiple_below nonneg positive
  have range := n.toInt_lt
  apply shrinkBy_eq
  · rw [Int.tdiv_eq_ediv_of_nonneg nonneg]
    have least := Int.ediv_nonneg nonneg (Int.le_of_lt positive)
    have most := Int.ediv_le_self d.toInt nonneg
    exact admits_of_fits (by omega)
  · rw [toInt_div nonneg positive]
    exact admits_of_fits (by omega)

theorem growBy_of_bounded (d_le : d.toInt ≤ 256) (n_le : n.toInt ≤ mostFollowing + 2 ^ 30) :
    growBy narrow? n d = some ((n + d - 1) / d * d) := by
  unfold mostFollowing at n_le
  have sum : (n + d).toInt = n.toInt + d.toInt := by
    rw [Int64.toInt_add]
    exact Int.bmod_eq_of_le (by omega) (by omega)
  have last : (n + d - 1).toInt = n.toInt + d.toInt - 1 := by
    rw [toInt_add_sub_one]
    exact Int.bmod_eq_of_le (by omega) (by omega)
  rw [growBy_eq (admits_of_fits (by omega)) (admits_of_fits (by omega))]
  exact shrinkBy_of_bounded (by omega) positive

end

theorem adjustBy_of_moderate {inW inH divisor : UInt32} {w h : Int64} (policy : AspectPolicy)
    (wide : Moderate inH.toNat inW.toNat w.toInt) (tall : Moderate inW.toNat inH.toNat h.toInt)
    (least : 1 ≤ divisor.toNat) (most : divisor.toNat ≤ 256) :
    adjustBy narrow? inW inH w h policy divisor = some (adjust inW inH w h policy divisor) := by
  obtain ⟨byRows, byRows_nonneg, byRows_le⟩ := rescaleBy_of_moderate tall
  obtain ⟨byColumns, byColumns_nonneg, byColumns_le⟩ := rescaleBy_of_moderate wide
  have div := toInt_widen divisor
  have w_nonneg := wide.nonneg
  have w_le := wide.le
  have h_nonneg := tall.nonneg
  have h_le := tall.le
  unfold adjustBy adjust
  rw [max_one_divisor least]
  cases policy with
  | disable => rfl
  | decrease =>
    have lessW := toInt_min (rescale h inW.toUInt64.toInt64 inH.toUInt64.toInt64) w
    have lessH := toInt_min (rescale w inH.toUInt64.toInt64 inW.toUInt64.toInt64) h
    have shrunkW := shrinkBy_of_bounded (d := divisor.toUInt64.toInt64)
      (show 0 ≤ (min (rescale h inW.toUInt64.toInt64 inH.toUInt64.toInt64) w).toInt by omega)
      (by omega)
    have shrunkH := shrinkBy_of_bounded (d := divisor.toUInt64.toInt64)
      (show 0 ≤ (min (rescale w inH.toUInt64.toInt64 inW.toUInt64.toInt64) h).toInt by omega)
      (by omega)
    simp [byRows, byColumns, shrunkW, shrunkH]
  | increase =>
    have moreW := toInt_max (rescale h inW.toUInt64.toInt64 inH.toUInt64.toInt64) w
    have moreH := toInt_max (rescale w inH.toUInt64.toInt64 inW.toUInt64.toInt64) h
    have grownW := growBy_of_bounded (d := divisor.toUInt64.toInt64)
      (show 0 ≤ (max (rescale h inW.toUInt64.toInt64 inH.toUInt64.toInt64) w).toInt by omega)
      (by omega) (by omega) (by omega)
    have grownH := growBy_of_bounded (d := divisor.toUInt64.toInt64)
      (show 0 ≤ (max (rescale w inH.toUInt64.toInt64 inW.toUInt64.toInt64) h).toInt by omega)
      (by omega) (by omega) (by omega)
    simp [byRows, byColumns, grownW, grownH]

/-- Bounded dimensions are completed, and what they come to is adjusted, without a result that
leaves the 64-bit range: neither a product, sum or negation, nor a rounded quotient. -/
theorem arithmetic_fits (input : Input) {w h : Int64} (w_le : w.toInt.natAbs ≤ 2147483647)
    (h_le : h.toInt.natAbs ≤ 2147483647) :
    ∃ width height,
      complete input.width.toUInt64.toInt64 input.height.toUInt64.toInt64 w h = (width, height) ∧
      completeBy narrow? input.width.toUInt64.toInt64 input.height.toUInt64.toInt64 w h =
        some (width, height) ∧
      (∀ columns rows, Asks columns rows input w h →
        requested columns rows input = .ok (width, height)) ∧
      ∀ (policy : AspectPolicy) (divisor : UInt32), 1 ≤ divisor.toNat → divisor.toNat ≤ 256 →
        adjustBy narrow? input.width input.height width height policy divisor =
          some (adjust input.width input.height width height policy divisor) := by
  obtain ⟨wide, tall⟩ := moderate_complete input.width input.height w_le h_le
  refine ⟨_, _, rfl, completeBy_of_bounded input.width input.height w_le h_le, ?_, ?_⟩
  · exact fun columns rows asks => asks.requested_eq
  · exact fun policy divisor least most => adjustBy_of_moderate policy wide tall least most

theorem fits_widest :
    (-2147483647 : Int64).toInt.natAbs ≤ 2147483647 ∧
      (2147483647 : Int64).toInt.natAbs ≤ 2147483647 ∧
      completeBy narrow? (4294967295 : UInt32).toUInt64.toInt64 (1 : UInt32).toUInt64.toInt64
        (-2147483647) 2147483647 = some (9223372030412324865, 2147483647) ∧
      adjustBy narrow? 4294967295 1 9223372030412324865 2147483647 .increase 256 =
        some (9223372030412325120, 2147483648) := by
  have w_le : (-2147483647 : Int64).toInt.natAbs ≤ 2147483647 := by decide
  have h_le : (2147483647 : Int64).toInt.natAbs ≤ 2147483647 := by decide
  obtain ⟨width, height, completed, fits, -, adjusted⟩ :=
    arithmetic_fits ⟨4294967295, 1, .unset, .nv12, .nv12⟩ w_le h_le
  have sizes : complete (4294967295 : UInt32).toUInt64.toInt64 (1 : UInt32).toUInt64.toInt64
      (-2147483647) 2147483647 = (9223372030412324865, 2147483647) := by decide
  obtain ⟨rfl, rfl⟩ := Prod.mk.inj (completed.symm.trans sizes)
  have grown := adjusted .increase 256 (by decide) (by decide)
  have size : adjust 4294967295 1 9223372030412324865 2147483647 .increase 256 =
      (9223372030412325120, 2147483648) := by decide
  rw [size] at grown
  exact ⟨w_le, h_le, fits, grown⟩

end VideoScaler.Dimensions
