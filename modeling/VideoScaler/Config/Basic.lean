import VideoScaler.Config.Options
import VideoScaler.Expression.Parser

/-! The configuration of a scale filter. -/

set_option autoImplicit false

namespace VideoScaler

structure ScaleConfig where
  width : String := "iw"
  height : String := "ih"
  /-- The layout of the output; none keeps the layout of the input. -/
  format : Option PixelFormat := none
  algorithm : ScaleAlgorithm := .bilinear
  profile : Option ColorProfile := none
  range : Option RangeOverride := none
  primaries : Option Primaries := none
  transfer : Option Transfer := none
  aspect : AspectPolicy := .disable
  divisor : UInt32 := 1
  deriving DecidableEq, Repr

namespace ScaleConfig

/-- The primaries to put on frames: unspecified ones override nothing. -/
def primariesOverride (c : ScaleConfig) : Option Primaries :=
  c.primaries.filter fun p => p ≠ .unspecified

def transferOverride (c : ScaleConfig) : Option Transfer :=
  c.transfer.filter fun t => t ≠ .unspecified

def validate (c : ScaleConfig) : Except Error Unit := do
  let _ ← Expression.parse c.width
  let _ ← Expression.parse c.height
  if c.divisor < 1 ∨ 256 < c.divisor then
    .error (.config (.divisorRange c.divisor))
  match c.format with
  | some format => if format.isHardware then .error (.config (.hardwareOutput format)) else .ok ()
  | none => .ok ()

end ScaleConfig

end VideoScaler
