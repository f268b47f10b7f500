import VideoScaler.Proofs.Dimensions.Default
import VideoScaler.Proofs.Dimensions.Leading
import VideoScaler.Proofs.Number.Magnitude

/-! The bounds of output dimensions.

What is asked for is never negative, since the values of expressions are bounded. What comes out is
a length in both axes, and keeps to what is asked for as the aspect policy says.
-/

set_option autoImplicit false

namespace VideoScaler.Dimensions

theorem natAbs_le_of_toInteger {e : Expression} {value : Float} {n : Int64}
    (accepted : toInteger e value = .ok n) : n.toInt.natAbs ≤ 2147483647 := by
  unfold toInteger at accepted
  split at accepted
  case isFalse => cases accepted
  case isTrue small =>
    cases accepted
    have magnitude : value.abs ≤ 2147483647 :=
      of_decide_eq_true (Bool.and_eq_true_iff.1 small).2
    have bounded := Number.natAbs_integerPart_le magnitude
    rw [Int64.toInt_ofInt_of_le (by omega) (by omega)]
    exact bounded

theorem expression_of_parse {source : String} {e : Error}
    (refused : Expression.parse source = .error e) : ∃ defect, e = .expression source defect := by
  unfold Expression.parse at refused
  split at refused
  case h_1 => cases refused
  case h_2 defect _ => exact ⟨defect, (Except.error.inj refused).symm⟩

theorem expression_of_toInteger {expression : Expression} {value : Float} {e : Error}
    (refused : toInteger expression value = .error e) :
    ∃ defect, e = .expression expression.source defect := by
  unfold toInteger at refused
  split at refused
  case isTrue => cases refused
  case isFalse => exact ⟨_, (Except.error.inj refused).symm⟩

/-- Two texts come to these dimensions for an input, before what they leave open is filled in. -/
def Asks (columns rows : String) (input : Input) (w h : Int64) : Prop :=
  ∃ wide tall, Expression.parse columns = .ok wide ∧ Expression.parse rows = .ok tall ∧
    toInteger wide (evaluate wide tall (inputVars input)).1 = .ok w ∧
    toInteger tall (evaluate wide tall (inputVars input)).2 = .ok h

section
variable {columns rows : String} {input : Input} {w h : Int64}

theorem Asks.natAbs_le (asks : Asks columns rows input w h) :
    w.toInt.natAbs ≤ 2147483647 ∧ h.toInt.natAbs ≤ 2147483647 := by
  obtain ⟨_, _, _, _, acceptedW, acceptedH⟩ := asks
  exact ⟨natAbs_le_of_toInteger acceptedW, natAbs_le_of_toInteger acceptedH⟩

theorem Asks.requested_eq (asks : Asks columns rows input w h) :
    requested columns rows input =
      .ok (complete input.width.toUInt64.toInt64 input.height.toUInt64.toInt64 w h) := by
  obtain ⟨_, _, parsedW, parsedH, acceptedW, acceptedH⟩ := asks
  simp only [requested, parsedW, parsedH, acceptedW, acceptedH, bind, Except.bind]
  rfl

theorem requested_cases (columns rows : String) (input : Input) :
    (∃ source defect, requested columns rows input = .error (.expression source defect)) ∨
      ∃ w h, Asks columns rows input w h := by
  unfold requested
  cases parsedW : Expression.parse columns with
  | error e =>
    obtain ⟨defect, rfl⟩ := expression_of_parse parsedW
    exact .inl ⟨_, _, rfl⟩
  | ok wide =>
    cases parsedH : Expression.parse rows with
    | error e =>
      obtain ⟨defect, rfl⟩ := expression_of_parse parsedH
      exact .inl ⟨_, _, rfl⟩
    | ok tall =>
      simp only [bind, Except.bind]
      split
      case h_1 refused =>
        obtain ⟨defect, rfl⟩ := expression_of_toInteger refused
        exact .inl ⟨_, _, rfl⟩
      case h_2 w acceptedW =>
        split
        case h_1 refused =>
          obtain ⟨defect, rfl⟩ := expression_of_toInteger refused
          exact .inl ⟨_, _, rfl⟩
        case h_2 h acceptedH =>
          exact .inr ⟨w, h, wide, tall, parsedW, parsedH, acceptedW, acceptedH⟩

theorem asks_of_requested {size : Int64 × Int64} (asked : requested columns rows input = .ok size) :
    ∃ w h, Asks columns rows input w h ∧
      complete input.width.toUInt64.toInt64 input.height.toUInt64.toInt64 w h = size := by
  obtain ⟨_, _, refused⟩ | ⟨w, h, asks⟩ := requested_cases columns rows input
  · rw [refused] at asked
    cases asked
  · exact ⟨w, h, asks, Except.ok.inj (asks.requested_eq.symm.trans asked)⟩

theorem requested_nonneg (asked : requested columns rows input = .ok (w, h)) : 0 ≤ w ∧ 0 ≤ h := by
  obtain ⟨x, y, asks, completed⟩ := asks_of_requested asked
  have moderate := moderate_complete input.width input.height asks.natAbs_le.1 asks.natAbs_le.2
  rw [completed] at moderate
  exact ⟨zero_le_iff.2 moderate.1.nonneg, zero_le_iff.2 moderate.2.nonneg⟩

end

def InRange (n : Int) : Prop :=
  1 ≤ n ∧ n ≤ 2147483647

theorem isLength_iff {n : Int64} : isLength n = true ↔ InRange n.toInt := by
  unfold isLength
  rw [Bool.and_eq_true, decide_eq_true_eq, decide_eq_true_eq, Int64.lt_iff_toInt_lt,
    Int64.le_iff_toInt_le]
  rfl

theorem toNat_narrow {n : Int64} (length : isLength n = true) :
    (n.toUInt64.toUInt32.toNat : Int) = n.toInt := by
  obtain ⟨low, high⟩ := isLength_iff.1 length
  have nonneg : 0 ≤ n := zero_le_iff.2 (by omega)
  have widened : n.toUInt64.toNat = n.toInt.toNat := Int64.toNat_toUInt64_of_le nonneg
  rw [UInt64.toNat_toUInt32, widened]
  omega

theorem toInt_div {n d : Int64} (nonneg : 0 ≤ n.toInt) (positive : 0 < d.toInt) :
    (n / d).toInt = n.toInt / d.toInt := by
  rw [Int64.toInt_div_of_ne_right, Int.tdiv_eq_ediv_of_nonneg nonneg]
  rintro rfl
  exact absurd positive (by decide)

theorem multiple_below {n d : Int} (nonneg : 0 ≤ n) (positive : 0 < d) :
    0 ≤ n / d * d ∧ n / d * d ≤ n :=
  ⟨Int.mul_nonneg (Int.ediv_nonneg nonneg (Int.le_of_lt positive)) (Int.le_of_lt positive),
    Int.ediv_mul_le n (Int.ne_of_gt positive)⟩

theorem toInt_div_mul {n d : Int64} (nonneg : 0 ≤ n.toInt) (positive : 0 < d.toInt) :
    (n / d * d).toInt = n.toInt / d.toInt * d.toInt := by
  have quotient := toInt_div nonneg positive
  have below := multiple_below nonneg positive
  have range := Int64.toInt_lt n
  rw [toInt_mul_of_bounds, quotient]
  · rw [quotient]
    omega
  · rw [quotient]
    omega

theorem multiple_of_pos {n d : Int64} (positive : 0 < d.toInt) (some_left : 1 ≤ (n / d * d).toInt) :
    d.toInt ∣ (n / d * d).toInt ∧ (n / d * d).toInt ≤ n.toInt ∧
      n.toInt < (n / d * d).toInt + d.toInt := by
  obtain above | below := Int.le_total 0 n.toInt
  · have near := Int.lt_ediv_add_one_mul_self n.toInt positive
    rw [Int.add_mul, Int.one_mul] at near
    rw [toInt_div_mul above positive]
    exact ⟨Int.dvd_mul_left .., Int.ediv_mul_le n.toInt (Int.ne_of_gt positive), near⟩
  · -- Nothing positive is left of a number that is not.
    exfalso
    have quotient : (n / d).toInt = -(-n.toInt / d.toInt) := by
      rw [Int64.toInt_div_of_ne_right, ← Int.tdiv_eq_ediv_of_nonneg (show 0 ≤ -n.toInt by omega),
        Int.neg_tdiv, Int.neg_neg]
      rintro rfl
      exact absurd positive (by decide)
    have down := Int.ediv_mul_le (-n.toInt) (Int.ne_of_gt positive)
    have least : 0 ≤ -n.toInt / d.toInt * d.toInt :=
      Int.mul_nonneg (Int.ediv_nonneg (by omega) (by omega)) (by omega)
    have range := Int64.le_toInt n
    have product : (n / d * d).toInt = -(-n.toInt / d.toInt * d.toInt) := by
      rw [toInt_mul_of_bounds, quotient, Int.neg_mul]
      · rw [quotient, Int.neg_mul]
        omega
      · rw [quotient, Int.neg_mul]
        omega
    omega

/-- The sum with the divisor before one is taken off wraps at most once. -/
theorem toInt_add_sub_one (n d : Int64) :
    (n + d - 1).toInt = (n.toInt + d.toInt - 1).bmod (2 ^ 64) := by
  rw [Int64.toInt_sub, Int64.toInt_add]
  exact Int.bmod_sub_bmod

theorem toInt_min (m n : Int64) : (min m n).toInt = min m.toInt n.toInt := by
  show (if m ≤ n then m else n).toInt = if m.toInt ≤ n.toInt then m.toInt else n.toInt
  simp only [Int64.le_iff_toInt_le]
  exact apply_ite Int64.toInt _ _ _

theorem toInt_max (m n : Int64) : (max m n).toInt = max m.toInt n.toInt := by
  show (if m ≤ n then n else m).toInt = if m.toInt ≤ n.toInt then n.toInt else m.toInt
  simp only [Int64.le_iff_toInt_le]
  exact apply_ite Int64.toInt _ _ _

theorem min_le_right (m n : Int64) : (min m n).toInt ≤ n.toInt := by
  rw [toInt_min]
  exact Int.min_le_right _ _

theorem le_max_right (m n : Int64) : n.toInt ≤ (max m n).toInt := by
  rw [toInt_max]
  exact Int.le_max_right _ _

/-- How a length keeps to what is asked for. -/
def Keeps (policy : AspectPolicy) (divisor : UInt32) (asked length : Int) : Prop :=
  match policy with
  | .disable => length = asked
  | .decrease => length ≤ asked ∧ (divisor.toNat : Int) ∣ length
  | .increase => asked ≤ length ∧ (divisor.toNat : Int) ∣ length

theorem shrink_keeps {m n d : Int64} (positive : 0 < d.toInt)
    (some_left : 1 ≤ (min m n / d * d).toInt) :
    (min m n / d * d).toInt ≤ n.toInt ∧ d.toInt ∣ (min m n / d * d).toInt := by
  obtain ⟨multiple, below, -⟩ := multiple_of_pos positive some_left
  exact ⟨Int.le_trans below (min_le_right m n), multiple⟩

theorem grow_keeps {m n d : Int64} (positive : 0 < d.toInt) (small : d.toInt ≤ 4294967295)
    (n_nonneg : 0 ≤ n.toInt) (some_left : 1 ≤ ((max m n + d - 1) / d * d).toInt) :
    n.toInt ≤ ((max m n + d - 1) / d * d).toInt ∧
      d.toInt ∣ ((max m n + d - 1) / d * d).toInt := by
  obtain ⟨multiple, below, near⟩ := multiple_of_pos positive some_left
  have above := le_max_right m n
  have range := Int64.toInt_lt (max m n)
  rw [toInt_add_sub_one] at below near
  refine ⟨?_, multiple⟩
  by_cases fits : (max m n).toInt + d.toInt - 1 < 2 ^ 63
  · rw [Int.bmod_eq_of_le (by omega) (by omega)] at near
    omega
  · -- A sum that wraps is negative, and nothing positive is left of it.
    have wrapped : ((max m n).toInt + d.toInt - 1).bmod (2 ^ 64) =
        (max m n).toInt + d.toInt - 1 - 2 ^ 64 := by
      rw [← Int.sub_bmod_right]
      exact Int.bmod_eq_of_le (by omega) (by omega)
    omega

theorem max_one_divisor {divisor : UInt32} (positive : 1 ≤ divisor.toNat) :
    max divisor 1 = divisor := by
  show (if divisor ≤ 1 then 1 else divisor) = divisor
  split
  case isTrue le =>
    have below : divisor.toNat ≤ 1 := UInt32.le_iff_toNat_le.1 le
    exact UInt32.toNat_inj.1 (Nat.le_antisymm positive below)
  case isFalse => rfl

theorem adjust_keeps {inW inH divisor : UInt32} {w h width height : Int64}
    {policy : AspectPolicy} (positive : 1 ≤ divisor.toNat) (w_nonneg : 0 ≤ w.toInt)
    (h_nonneg : 0 ≤ h.toInt) (adjusted : adjust inW inH w h policy divisor = (width, height))
    (lengthW : InRange width.toInt) (lengthH : InRange height.toInt) :
    Keeps policy divisor w.toInt width.toInt ∧ Keeps policy divisor h.toInt height.toInt := by
  have div := toInt_widen divisor
  have bound := divisor.toNat_lt
  unfold adjust at adjusted
  rw [max_one_divisor positive] at adjusted
  cases policy with
  | disable =>
    cases adjusted
    exact ⟨rfl, rfl⟩
  | decrease =>
    cases adjusted
    have keepsW := shrink_keeps (by omega) lengthW.1
    have keepsH := shrink_keeps (by omega) lengthH.1
    rw [div] at keepsW keepsH
    exact ⟨keepsW, keepsH⟩
  | increase =>
    cases adjusted
    have keepsW := grow_keeps (by omega) (by omega) w_nonneg lengthW.1
    have keepsH := grow_keeps (by omega) (by omega) h_nonneg lengthH.1
    rw [div] at keepsW keepsH
    exact ⟨keepsW, keepsH⟩

theorem one_le_divisor {config : ScaleConfig} (valid : config.validate = .ok ()) :
    1 ≤ config.divisor.toNat := by
  simp only [ScaleConfig.validate, bind, Except.bind] at valid
  split at valid
  case h_1 => cases valid
  case h_2 =>
    split at valid
    case h_1 => cases valid
    case h_2 =>
      split at valid
      case isTrue => cases valid
      case isFalse within =>
        rw [not_or, UInt32.not_lt] at within
        exact UInt32.le_iff_toNat_le.1 within.1

theorem resolve_of_requested {config : ScaleConfig} {input : Input} {w h width height : Int64}
    (asked : requested config.width config.height input = .ok (w, h))
    (adjusted : adjust input.width input.height w h config.aspect config.divisor =
      (width, height)) :
    resolve config input =
      if isLength width && isLength height then
        .ok ⟨width.toUInt64.toUInt32, height.toUInt64.toUInt32⟩
      else
        .error (.config (.unresolvedSize width height)) := by
  simp only [resolve, asked, bind, Except.bind, adjusted]
  rfl

theorem expression_of_requested {columns rows : String} {input : Input} {e : Error}
    (refused : requested columns rows input = .error e) :
    ∃ source defect, e = .expression source defect := by
  obtain ⟨source, defect, same⟩ | ⟨_, _, asks⟩ := requested_cases columns rows input
  · exact ⟨source, defect, Except.error.inj (refused.symm.trans same)⟩
  · rw [asks.requested_eq] at refused
    cases refused

theorem exists_of_resolve {config : ScaleConfig} {input : Input} {size : Resolution}
    (resolved : resolve config input = .ok size) :
    ∃ w h width height, requested config.width config.height input = .ok (w, h) ∧
      adjust input.width input.height w h config.aspect config.divisor = (width, height) ∧
      isLength width = true ∧ isLength height = true ∧
      size = ⟨width.toUInt64.toUInt32, height.toUInt64.toUInt32⟩ := by
  cases asked : requested config.width config.height input with
  | error e =>
    simp only [resolve, asked, bind, Except.bind] at resolved
    cases resolved
  | ok pair =>
    obtain ⟨w, h⟩ := pair
    cases adjusted : adjust input.width input.height w h config.aspect config.divisor with
    | mk width height =>
      rw [resolve_of_requested asked adjusted] at resolved
      split at resolved
      case isTrue lengths =>
        obtain ⟨lengthW, lengthH⟩ := Bool.and_eq_true_iff.1 lengths
        exact ⟨w, h, width, height, rfl, adjusted, lengthW, lengthH, (Except.ok.inj resolved).symm⟩
      case isFalse => cases resolved

theorem isConfiguration_of_resolve {config : ScaleConfig} {input : Input} {e : Error}
    (refused : resolve config input = .error e) : e.isConfiguration = true := by
  cases asked : requested config.width config.height input with
  | error cause =>
    obtain ⟨source, defect, rfl⟩ := expression_of_requested asked
    simp only [resolve, asked, bind, Except.bind] at refused
    obtain rfl := Except.error.inj refused
    rfl
  | ok pair =>
    obtain ⟨w, h⟩ := pair
    cases adjusted : adjust input.width input.height w h config.aspect config.divisor with
    | mk width height =>
      rw [resolve_of_requested asked adjusted] at refused
      split at refused
      case isTrue => cases refused
      case isFalse =>
        obtain rfl := Except.error.inj refused
        rfl

/-- What is asked for is not negative. What comes out is in range in both axes and keeps to what
is asked for; adjusted dimensions of which one is out of range are refused, and this, like all that
is refused here, is a configuration error. -/
theorem resolve_keeps {config : ScaleConfig} (valid : config.validate = .ok ()) (input : Input) :
    (∀ w h, requested config.width config.height input = .ok (w, h) → 0 ≤ w ∧ 0 ≤ h) ∧
    (∀ size, resolve config input = .ok size →
      ∃ w h, requested config.width config.height input = .ok (w, h) ∧
        InRange size.width.toNat ∧ InRange size.height.toNat ∧
        Keeps config.aspect config.divisor w.toInt size.width.toNat ∧
        Keeps config.aspect config.divisor h.toInt size.height.toNat) ∧
    (∀ w h width height, requested config.width config.height input = .ok (w, h) →
      adjust input.width input.height w h config.aspect config.divisor = (width, height) →
      (¬(InRange width.toInt ∧ InRange height.toInt) ↔
        resolve config input = .error (.config (.unresolvedSize width height)))) ∧
    (∀ e, resolve config input = .error e → e.isConfiguration = true) := by
  refine ⟨fun w h asked => requested_nonneg asked, ?_, ?_, fun e => isConfiguration_of_resolve⟩
  · intro size resolved
    obtain ⟨w, h, width, height, asked, adjusted, lengthW, lengthH, rfl⟩ :=
      exists_of_resolve resolved
    obtain ⟨w_nonneg, h_nonneg⟩ := requested_nonneg asked
    have rangeW := isLength_iff.1 lengthW
    have rangeH := isLength_iff.1 lengthH
    have keeps := adjust_keeps (one_le_divisor valid) (zero_le_iff.1 w_nonneg)
      (zero_le_iff.1 h_nonneg) adjusted rangeW rangeH
    rw [toNat_narrow lengthW, toNat_narrow lengthH]
    exact ⟨w, h, asked, rangeW, rangeH, keeps⟩
  · intro w h width height asked adjusted
    rw [resolve_of_requested asked adjusted, ← isLength_iff, ← isLength_iff,
      ← Bool.and_eq_true]
    split
    case isTrue lengths => simp [lengths]
    case isFalse lengths => simp [lengths]

theorem resolve_keeps_five_by_three :
    ({ aspect := .decrease, divisor := 2 } : ScaleConfig).validate = .ok () ∧
    resolve { aspect := .decrease, divisor := 2 } ⟨5, 3, ⟨1, 1⟩, .nv12, .nv12⟩ = .ok ⟨4, 2⟩ ∧
    ∃ w h, requested "iw" "ih" ⟨5, 3, ⟨1, 1⟩, .nv12, .nv12⟩ = .ok (w, h) ∧
      InRange 4 ∧ InRange 2 ∧ Keeps .decrease 2 w.toInt 4 ∧ Keeps .decrease 2 h.toInt 2 := by
  have valid : ({ aspect := .decrease, divisor := 2 } : ScaleConfig).validate = .ok () := by
    show (Expression.parse "iw" >>= fun _ => Expression.parse "ih" >>= fun _ => _) = _
    rw [parse_iw, parse_ih]
    rfl
  have five : toInteger ⟨"iw", .var .inW⟩ (5 : UInt32).toFloat = .ok 5 :=
    toInteger_ok (by decide +kernel) (show _ = (5 : Int) by decide +kernel)
  have three : toInteger ⟨"ih", .var .inH⟩ (3 : UInt32).toFloat = .ok 3 :=
    toInteger_ok (by decide +kernel) (show _ = (3 : Int) by decide +kernel)
  have asked : requested "iw" "ih" ⟨5, 3, ⟨1, 1⟩, .nv12, .nv12⟩ = .ok (5, 3) :=
    requested_of_values parse_iw parse_ih five three ⟨rfl, rfl⟩
  have adjusted : adjust 5 3 5 3 .decrease 2 = (4, 2) := by decide
  have resolved : resolve { aspect := .decrease, divisor := 2 } ⟨5, 3, ⟨1, 1⟩, .nv12, .nv12⟩ =
      .ok ⟨4, 2⟩ :=
    Eq.trans (resolve_of_requested asked adjusted) rfl
  exact ⟨valid, resolved, (resolve_keeps valid _).2.1 _ resolved⟩

end VideoScaler.Dimensions
