import VideoScaler.Filter.Bridge
import VideoScaler.Workbench.Answer
import VideoScaler.Workbench.Pattern

/-! Frames at a workbench. -/

set_option autoImplicit false

namespace VideoScaler

inductive SampleSource where
  | blank
  /-- Bytes without padding. -/
  | packed (pattern : Pattern)
  /-- The data of each plane and the distance of its rows, whatever they are. -/
  | planes (planes : List (Pattern × Nat))

inductive PayloadSource where
  | texture (name : String) (index : Nat)
  | dx9 (name : String)
  | buffer (name : String)

structure FrameDescription where
  format : PixelFormat
  width : UInt32
  height : UInt32
  pts : Int64
  sar : Ratio
  color : ColorProperties
  metadata : List (String × String)
  samples : SampleSource
  payload : Option PayloadSource
  pool : Option String

/-- A frame to work with: one that is kept under a name, or one that is made for the
occasion. -/
inductive FrameSource where
  | stored (name : String)
  | described (description : FrameDescription)

inductive FrameCommand where
  | make (source : FrameSource) (name : String)
  | view (source : FrameSource)
  /-- The samples of a frame without padding. -/
  | packed (source : FrameSource)
  | copyProperties (source target : String)
  | toSurface (context : String) (source : FrameSource) (name : String)
  /-- Make a frame of a pool from a surface that stays where it is. -/
  | toFrame (pool surface : String) (name : String)

def Frame.blankWithin (format : PixelFormat) (width height : UInt32) : Attempt Problem Frame := do
  Attempt.room ((format.shapes width.toNat height.toNat).map Format.Shape.bytes)
  return blank format width height

namespace FrameDescription

def withSamples (d : FrameDescription) : Attempt Problem Frame :=
  match d.samples with
  | .blank => Frame.blankWithin d.format d.width d.height
  | .packed pattern =>
    let shapes := d.format.shapes d.width.toNat d.height.toNat
    match Frame.ofPacked? d.format d.width d.height (pattern.bytes (Format.packedBytes shapes)) with
    | some f => .ok f
    | none => .error (.refused .samples)
  | .planes planes =>
    .ok
      { format := d.format, width := d.width, height := d.height
        planes := planes.map fun (pattern, linesize) => ⟨pattern.bytes 0, linesize⟩ }

end FrameDescription

/-- The same frame to be scaled or bridged. Whoever does that looks at the picture on the
device if there is one, so blank samples in host memory need not be made. -/
def FrameSource.toScale : FrameSource → FrameSource
  | .described d =>
    match d.payload, d.samples with
    | some _, .blank => .described { d with samples := .planes [] }
    | _, _ => .described d
  | .stored name => .stored name

namespace Action

variable {κ : Type}

def payload : PayloadSource → Action κ Payload
  | .texture name index => return .d3d11 (← texture name) index
  | .dx9 name => return .dxva2 (← dx9 name)
  | .buffer name => return .amf (← buffer name)

def describedFrame (d : FrameDescription) : Action κ Frame := do
  let f ← ofAttempt d.withSamples
  let payload ← match d.payload with
    | some source => some <$> payload source
    | none => pure none
  let pool ← optional pool d.pool
  return { f with
    pts := d.pts, sar := d.sar, color := d.color, metadata := d.metadata, payload, pool }

def borrowFrame : FrameSource → Action κ Frame
  | .stored name => frame name
  | .described d => describedFrame d

def copyFrame (source : FrameSource) : Action κ Frame := do
  let f ← borrowFrame source
  onWorld fun w => (f, w.retainFrame f)

def dropFrame (f : Frame) : Action κ Unit :=
  onWorld fun w => ((), w.dropFrame f)

end Action

namespace FrameCommand

variable {κ : Type} [Component κ]

def perform : FrameCommand → Action κ Answer
  | make source name => do
    let f ← Action.copyFrame source
    let answer ← Action.showFrame f
    Action.store name (.frame f)
    return answer
  | view source => do
    Action.showFrame (← Action.borrowFrame source)
  | packed source => do
    let f ← Action.borrowFrame source
    return .bytes (← Action.ofView f.packed?)
  | copyProperties source target => do
    let from_ ← Action.frame source
    let f := (← Action.frame target).copyProperties from_
    Action.update target (.frame f)
    Action.showFrame f
  | toSurface context source name => do
    let c ← Action.context context
    let f ← Action.copyFrame source.toScale
    let result ← Action.onWorld fun w => Bridge.toSurface c f w
    Action.dropFrame f
    let s ← Action.ofAttempt (result.mapRefusal .error)
    let answer ← Action.showSurface s
    Action.store name (.surface s)
    return answer
  | toFrame pool surface name => do
    let p ← Action.pool pool
    let s ← Action.surface surface
    let result ← Action.onWorld fun w =>
      Bridge.toFrame p s { w with media := w.media.retain s }
    let f ← Action.ofAttempt (result.mapRefusal .error)
    let answer ← Action.showFrame f
    Action.store name (.frame f)
    return answer

end FrameCommand

end VideoScaler
