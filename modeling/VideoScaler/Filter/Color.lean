import VideoScaler.Config.Basic
import VideoScaler.Frame.Basic

/-! Color options: what they tell the converter, and what they put on frames. -/

set_option autoImplicit false

namespace VideoScaler

namespace ColorProfile

/-- The profile code of the converter; full range has codes of its own. -/
def property (profile : ColorProfile) (fullRange : Bool) : Int64 :=
  match profile with
  | bt601 => if fullRange then 3 else 0
  | bt709 => if fullRange then 4 else 1
  | bt2020 => if fullRange then 5 else 2
  | jpeg => 3

def colorSpace : ColorProfile → ColorSpace
  | bt601 => .smpte170m
  | bt709 => .bt709
  | bt2020 => .bt2020ncl
  | jpeg => .rgb

end ColorProfile

namespace RangeOverride

def property : RangeOverride → Int64
  | studio => 1
  | full => 2

def colorRange : RangeOverride → ColorRange
  | studio => .limited
  | full => .full

end RangeOverride

namespace ScaleConfig

def profileProperty? (c : ScaleConfig) : Option Int64 :=
  c.profile.map fun profile => profile.property (c.range = some .full)

/-- The color properties of an output frame: those of the input, but for what is asked
for. -/
def overrideColor (c : ScaleConfig) (color : ColorProperties) : ColorProperties :=
  { range := (c.range.map RangeOverride.colorRange).getD color.range
    space := (c.profile.map ColorProfile.colorSpace).getD color.space
    primaries := c.primariesOverride.getD color.primaries
    transfer := c.transferOverride.getD color.transfer }

end ScaleConfig

end VideoScaler
