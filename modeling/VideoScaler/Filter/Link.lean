import VideoScaler.Frame.Basic
import VideoScaler.Resolution

/-! Links between the stages of a pipeline: what all frames on them have in common. -/

set_option autoImplicit false

namespace VideoScaler

structure InputLink where
  format : PixelFormat
  width : UInt32
  height : UInt32
  sar : Ratio := Ratio.unset
  /-- The pool of the frames; frames on a device need one. -/
  pool : Option FramePool := none

structure OutputLink where
  format : PixelFormat
  width : UInt32
  height : UInt32
  sar : Ratio
  pool : FramePool

namespace InputLink

def size (link : InputLink) : Resolution :=
  ⟨link.width, link.height⟩

def ofPool (pool : FramePool) : InputLink :=
  { format := pool.desc.format, width := pool.desc.width, height := pool.desc.height,
    pool := some pool }

/-- The layout of the samples: that of the pool for frames on a device. -/
def layout (link : InputLink) : PixelFormat :=
  match link.pool with
  | some pool => if link.format.isHardware then pool.desc.swFormat else link.format
  | none => link.format

end InputLink

namespace OutputLink

def size (link : OutputLink) : Resolution :=
  ⟨link.width, link.height⟩

end OutputLink

end VideoScaler
