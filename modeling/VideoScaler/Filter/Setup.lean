import VideoScaler.Component.Basic
import VideoScaler.Filter.Link
import VideoScaler.Frame.World

/-! Choosing the accelerator context for a link, and making the pool of output frames.

The device behind the input frames comes first, then the device bound to the pipeline; when
there is neither, the filter makes a context of its own.
-/

set_option autoImplicit false

namespace VideoScaler

inductive ContextSource where
  | inputPool (context : DeviceContext) (input output : FramePool)
  | boundDevice (context : DeviceContext) (device : Device) (output : FramePool)
  | standalone (context : DeviceContext) (output : FramePool)

namespace ContextSource

def context : ContextSource → DeviceContext
  | inputPool context _ _ | boundDevice context _ _ | standalone context _ => context

def outputPool : ContextSource → FramePool
  | inputPool _ _ output | boundDevice _ _ output | standalone _ output => output

def inputPool? : ContextSource → Option FramePool
  | inputPool _ input _ => some input
  | _ => none

def name : ContextSource → String
  | inputPool _ _ _ => "input-pool"
  | boundDevice _ _ _ => "bound-device"
  | standalone _ _ => "standalone"

end ContextSource

structure Setup where
  source : ContextSource
  /-- The layout of the surfaces to take in. -/
  layout : PixelFormat

namespace Setup

/-- The description of a pool once the layout asked for is put in. The frames of a pool in
host memory have its own format as layout, so another layout cannot be asked for. -/
def poolDesc (desc : PoolDesc) (userFormat : Option PixelFormat) : Except Error PoolDesc :=
  let wanted := userFormat.getD desc.swFormat
  if desc.format.isHardware then .ok { desc with swFormat := wanted }
  else if userFormat.isSome ∧ wanted ≠ desc.format then
    .error (.config (.conflictingOutput wanted desc.format))
  else
    .ok { desc with swFormat := desc.format }

def onInputPool {κ : Type} (runtime : Runtime κ) (input : FramePool) (outFormat : PixelFormat)
    (size : Resolution) (userFormat : Option PixelFormat) (w : World) :
    Except Error (ContextSource × World) := do
  if SurfaceFormat.ofPixelFormat input.desc.swFormat = .unknown then
    .error (.config (.poolInputLayout input.desc.swFormat))
  let context ← DeviceContext.derive runtime input.device
  let desc ← poolDesc ⟨outFormat, input.desc.swFormat, size.width, size.height⟩ userFormat
  let (output, w) ← w.addPool input.device desc
  return (.inputPool context input output, w)

/-- Set up on a bound device. Its frames live on the accelerator; their layout is the output
format, or that of the input when the output format is no layout. -/
def onDevice {κ : Type} (runtime : Runtime κ) (device : Device) (inFormat outFormat : PixelFormat)
    (size : Resolution) (userFormat : Option PixelFormat) (w : World) :
    Except Error (ContextSource × World) := do
  let context ← DeviceContext.derive runtime device
  -- Whatever is asked for, frames on a bound device live on the accelerator.
  let layout := if outFormat.isHardware then inFormat else outFormat
  let desc ← poolDesc ⟨.amf, layout, size.width, size.height⟩ userFormat
  let (output, w) ← w.addPool device desc
  return (.boundDevice context device output, w)

def onNewContext {κ : Type} (runtime : Runtime κ) (inFormat outFormat : PixelFormat)
    (size : Resolution) (userFormat : Option PixelFormat) (w : World) :
    Except Error (ContextSource × World) := do
  let context ← DeviceContext.create runtime
  let desc ← poolDesc ⟨outFormat, inFormat, size.width, size.height⟩ userFormat
  let (output, w) ← w.addPool (.accelerator context) desc
  return (.standalone context output, w)

/-- Choose a context and make the pool of output frames. Nothing changes on an error. -/
def configure {κ : Type} (runtime : Runtime κ) (link : InputLink) (device : Option Device)
    (outFormat : PixelFormat) (size : Resolution) (userFormat : Option PixelFormat)
    (w : World) : Except Error (Setup × World) := do
  if link.format.isHardware ∧ link.pool.isNone then
    .error (.config (.missingPool link.format))
  let (source, w) ← match link.pool, device with
    | some input, _ => onInputPool runtime input outFormat size userFormat w
    | none, some device => onDevice runtime device link.format outFormat size userFormat w
    | none, none => onNewContext runtime link.format outFormat size userFormat w
  return (⟨source, link.layout⟩, w)

end Setup

end VideoScaler
