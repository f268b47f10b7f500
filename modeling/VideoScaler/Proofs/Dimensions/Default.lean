import VideoScaler.Dimensions
import VideoScaler.Proofs.Expression.Grammar

/-! The size that comes out when nothing is asked for, that of the input, and when two lengths
are. -/

set_option autoImplicit false

namespace VideoScaler.Dimensions

theorem parse_iw : Expression.parse "iw" = .ok ⟨"iw", .var .inW⟩ :=
  Expression.parse_word (show "iw".toList = 'i' :: ['w'] from rfl) rfl rfl (by decide)

theorem parse_ih : Expression.parse "ih" = .ok ⟨"ih", .var .inH⟩ :=
  Expression.parse_word (show "ih".toList = 'i' :: ['h'] from rfl) rfl rfl (by decide)

theorem validate_default : ({} : ScaleConfig).validate = .ok () := by
  show (Expression.parse "iw" >>= fun _ => Expression.parse "ih" >>= fun _ => _) = _
  rw [parse_iw, parse_ih]
  rfl

theorem complete_of_pos {inW inH w h : Int64} (columns : 0 < w) (rows : 0 < h) :
    complete inW inH w h = (w, h) := by
  have wne : w ≠ 0 := (Int64.ne_of_lt columns).symm
  have hne : h ≠ 0 := (Int64.ne_of_lt rows).symm
  have wpos : ¬w < 0 := Int64.not_lt.2 (Int64.le_of_lt columns)
  have hpos : ¬h < 0 := Int64.not_lt.2 (Int64.le_of_lt rows)
  simp [complete, wne, hne, wpos, hpos]

section
variable {columns rows : String} {input : Input} {wide tall : Expression} {w h : Int64}
  (parsedW : Expression.parse columns = .ok wide) (parsedH : Expression.parse rows = .ok tall)
  (valueW : toInteger wide (evaluate wide tall (inputVars input)).1 = .ok w)
  (valueH : toInteger tall (evaluate wide tall (inputVars input)).2 = .ok h)
  (lengths : isLength w = true ∧ isLength h = true)
include parsedW parsedH valueW valueH lengths

theorem requested_of_values : requested columns rows input = .ok (w, h) := by
  have positive := lengths
  simp only [isLength, Bool.and_eq_true, decide_eq_true_eq] at positive
  unfold requested
  rw [parsedW, parsedH]
  show (toInteger wide (evaluate wide tall (inputVars input)).1 >>= fun w =>
    toInteger tall (evaluate wide tall (inputVars input)).2 >>= fun h => _) = _
  rw [valueW, valueH]
  show Except.ok (complete _ _ _ _) = _
  rw [complete_of_pos positive.1.1 positive.2.1]

theorem resolve_of_values {config : ScaleConfig} (width_eq : config.width = columns)
    (height_eq : config.height = rows) (free : config.aspect = .disable) :
    resolve config input = .ok ⟨w.toUInt64.toUInt32, h.toUInt64.toUInt32⟩ := by
  unfold resolve
  rw [width_eq, height_eq, free, requested_of_values parsedW parsedH valueW valueH lengths]
  show (if (isLength w && isLength h) = true then Except.ok (Resolution.mk w.toUInt64.toUInt32
    h.toUInt64.toUInt32) else _) = _
  rw [lengths.1, lengths.2]
  rfl

end

theorem resolve_default {input : Input}
    (columns : toInteger ⟨"iw", .var .inW⟩ input.width.toFloat = .ok input.width.toUInt64.toInt64)
    (rows : toInteger ⟨"ih", .var .inH⟩ input.height.toFloat = .ok input.height.toUInt64.toInt64)
    (lengths : isLength input.width.toUInt64.toInt64 = true ∧
      isLength input.height.toUInt64.toInt64 = true) :
    resolve {} input = .ok ⟨input.width, input.height⟩ := by
  rw [resolve_of_values parse_iw parse_ih columns rows lengths rfl rfl rfl]
  simp

theorem toInteger_ok {e : Expression} {value : Float} {n : Int}
    (bounded : (value.isFinite && decide (value.abs ≤ valueLimit)) = true)
    (whole : Number.integerPart value = n) : toInteger e value = .ok (Int64.ofInt n) := by
  rw [toInteger, if_pos bounded, whole]

theorem resolve_four_by_two (sar : Ratio) (inFormat outFormat : PixelFormat) :
    resolve {} ⟨4, 2, sar, inFormat, outFormat⟩ = .ok ⟨4, 2⟩ := by
  -- The only places where numbers are computed: two and four as doubles, and back.
  have four : toInteger ⟨"iw", .var .inW⟩ (4 : UInt32).toFloat = .ok 4 :=
    toInteger_ok (n := 4) (by decide +kernel) (by decide +kernel)
  have two : toInteger ⟨"ih", .var .inH⟩ (2 : UInt32).toFloat = .ok 2 :=
    toInteger_ok (n := 2) (by decide +kernel) (by decide +kernel)
  exact resolve_default four two ⟨rfl, rfl⟩

def greatestConfig : ScaleConfig :=
  { width := "2147483647", height := "2147483647" }

def greatestLength : Expression :=
  ⟨"2147483647", .number (Number.Decimal.toFloat ⟨2147483647, 0⟩)⟩

theorem parse_greatestLength : Expression.parse "2147483647" = .ok greatestLength := by
  have scanned : (Expression.Token.scan ['2', '1', '4', '7', '4', '8', '3', '6', '4', '7']).map
      Expression.Lexeme.token = [.number "2147483647"] := by
    rw [Expression.Token.scan_cons (t := .number "2147483647") (n := 9) rfl rfl,
      List.drop_of_length_le (by decide), Expression.Token.scan]
    rfl
  exact Expression.parse_of_scan scanned (.product (.signed (.operand (.number rfl))))

theorem resolve_greatest (input : Input) :
    resolve greatestConfig input = .ok ⟨2147483647, 2147483647⟩ := by
  have value : toInteger greatestLength (Number.Decimal.toFloat ⟨2147483647, 0⟩) =
      .ok 2147483647 :=
    toInteger_ok (n := 2147483647) (by decide +kernel) (by decide +kernel)
  exact resolve_of_values parse_greatestLength parse_greatestLength value value ⟨rfl, rfl⟩ rfl rfl
    rfl

end VideoScaler.Dimensions
