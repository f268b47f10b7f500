import VideoScaler.Config.Basic

/-! Options as a user gives them, one after the other. -/

set_option autoImplicit false

namespace VideoScaler

/-- One option. Words are given as texts; the sizes are expressions, which are not checked
before the configuration is. -/
inductive Setting where
  | width (expression : String)
  | height (expression : String)
  | format (text : String)
  | algorithm (text : String)
  | profile (text : String)
  | range (text : String)
  | primaries (text : String)
  | transfer (text : String)
  | aspect (text : String)
  | divisor (n : UInt32)
  deriving DecidableEq, Repr

namespace ScaleConfig

def set (c : ScaleConfig) : Setting → Except Error ScaleConfig
  | .width expression => .ok { c with width := expression }
  | .height expression => .ok { c with height := expression }
  | .format text => (PixelFormat.parseOutput text).map fun f => { c with format := f }
  | .algorithm text => (ScaleAlgorithm.parse text).map fun a => { c with algorithm := a }
  | .profile text => (ColorProfile.parse text).map fun p => { c with profile := some p }
  | .range text => (RangeOverride.parse text).map fun r => { c with range := some r }
  | .primaries text => (Primaries.parse text).map fun p => { c with primaries := some p }
  | .transfer text => (Transfer.parse text).map fun t => { c with transfer := some t }
  | .aspect text => (AspectPolicy.parse text).map fun p => { c with aspect := p }
  | .divisor n => .ok { c with divisor := n }

/-- Put options into a configuration, up to the first that cannot be read. -/
def setAll (c : ScaleConfig) (settings : List Setting) : Except Error ScaleConfig :=
  settings.foldlM set c

end ScaleConfig

end VideoScaler
