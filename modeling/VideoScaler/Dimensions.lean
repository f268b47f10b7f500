import VideoScaler.Config.Basic
import VideoScaler.Resolution

/-! Output dimensions: from the two size expressions, the input and the aspect policy to a
picture size.

Quotients are exact before they are rounded; everything else is 64-bit arithmetic.
-/

set_option autoImplicit false

namespace VideoScaler.Dimensions

structure Input where
  width : UInt32
  height : UInt32
  sar : Ratio
  inFormat : PixelFormat
  outFormat : PixelFormat

/-- The integer nearest to `num / den`; a half goes away from zero. -/
def roundQuotient (num den : Int) : Int :=
  let q : Int := ((num.natAbs + den.natAbs / 2) / den.natAbs : Nat)
  if (num < 0) != (den < 0) then -q else q

/-- `a · b / c`, rounded; zero when `c` is zero. -/
def rescale (a b c : Int64) : Int64 :=
  if c = 0 then 0 else Int64.ofInt (roundQuotient (a.toInt * b.toInt) c.toInt)

def valueLimit : Float := 2147483647

def toInteger (e : Expression) (value : Float) : Except Error Int64 :=
  if value.isFinite && value.abs ≤ valueLimit then
    .ok (Int64.ofInt (Number.integerPart value))
  else
    .error (.expression e.source (.evaluatesTo value))

def subsampling (shift : Nat) : Float :=
  (UInt64.ofNat (Nat.pow 2 shift)).toFloat

def inputVars (input : Input) : Expression.Vars :=
  let inW := input.width.toFloat
  let inH := input.height.toFloat
  let sar := if input.sar.isSet then input.sar.toFloat else 1
  -- An expression that uses an output size before it is known has no value.
  let nan := Float.ofBits 0x7FF8000000000000
  { inW, inH, outW := nan, outH := nan, a := inW / inH, sar, dar := inW / inH * sar,
    hsub := subsampling input.inFormat.chromaShift.1,
    vsub := subsampling input.inFormat.chromaShift.2,
    ohsub := subsampling input.outFormat.chromaShift.1,
    ovsub := subsampling input.outFormat.chromaShift.2 }

/-- Evaluate the width, then the height with this width, then the width with this height. -/
def evaluate (w h : Expression) (vars : Expression.Vars) : Float × Float :=
  let vars := { vars with outW := w.eval vars }
  let vars := { vars with outH := h.eval vars }
  (w.eval vars, vars.outH)

/-- What a negative number asks for: a multiple of its magnitude, from `-2` on. -/
def factor (n : Int64) : Int64 :=
  if n < -1 then -n else 1

/-- Fill in what the expressions leave open: zero is the input's dimension, and a negative
dimension follows from the other one by the shape of the input. -/
def complete (inW inH w h : Int64) : Int64 × Int64 :=
  let w := if w = 0 then inW else w
  let h := if h = 0 then inH else h
  let factorW := factor w
  let factorH := factor h
  -- Neither can follow from the other when both are left open.
  let (w, h) := if w < 0 && h < 0 then (inW, inH) else (w, h)
  let w := if w < 0 then rescale h inW (inH * factorW) * factorW else w
  let h := if h < 0 then rescale w inH (inW * factorH) * factorH else h
  (w, h)

def requested (w h : String) (input : Input) : Except Error (Int64 × Int64) := do
  let w ← Expression.parse w
  let h ← Expression.parse h
  let (wValue, hValue) := evaluate w h (inputVars input)
  let w ← toInteger w wValue
  let h ← toInteger h hValue
  return complete input.width.toUInt64.toInt64 input.height.toUInt64.toInt64 w h

/-- Bring dimensions to the shape of the input and to multiples of the divisor, by
shrinking or by growing one of them. -/
def adjust (inW inH : UInt32) (w h : Int64) (policy : AspectPolicy) (divisor : UInt32) :
    Int64 × Int64 :=
  let inW := inW.toUInt64.toInt64
  let inH := inH.toUInt64.toInt64
  let div := (max divisor 1).toUInt64.toInt64
  match policy with
  | .disable => (w, h)
  | .decrease =>
    let w' := min (rescale h inW inH) w
    let h' := min (rescale w inH inW) h
    (w' / div * div, h' / div * div)
  | .increase =>
    let w' := max (rescale h inW inH) w
    let h' := max (rescale w inH inW) h
    -- Growing goes up to the next multiple, shrinking down to the one before.
    ((w' + div - 1) / div * div, (h' + div - 1) / div * div)

def isLength (n : Int64) : Bool :=
  0 < n && n ≤ 2147483647

def resolve (config : ScaleConfig) (input : Input) : Except Error Resolution := do
  let (w, h) ← requested config.width config.height input
  let (w, h) := adjust input.width input.height w h config.aspect config.divisor
  if isLength w && isLength h then
    return ⟨w.toUInt64.toUInt32, h.toUInt64.toUInt32⟩
  else
    .error (.config (.unresolvedSize w h))

end VideoScaler.Dimensions
