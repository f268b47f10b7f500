import VideoScaler.Workbench.Basic
import VideoScaler.Workbench.View

/-! What a workbench answers. -/

set_option autoImplicit false

namespace VideoScaler

structure SourceView where
  source : ContextSource
  input : Option PoolView
  output : PoolView

structure LinkView where
  link : OutputLink
  pool : PoolView

inductive Answer where
  | done
  | text (s : String)
  | flag (b : Bool)
  | bytes (b : Bytes)
  | value (v : Option Variant)
  /-- The surfaces created, released, and still there. -/
  | surfaces (created released live : Nat)
  | pool (v : PoolView)
  | texture (v : TextureView)
  | dx9 (v : Dx9View)
  | surface (v : SurfaceView)
  | buffer (v : BufferView)
  | frame (v : FrameView)
  | frameIfAny (v : Option FrameView)
  | setup (source : SourceView) (layout : PixelFormat)
  | source (v : Option SourceView)
  | scaler (state : ScalerState) (frames : Nat)
  | filter (config : ScaleConfig) (device : Option DeviceKind)
  | formats (lists : FormatLists)
  | format (f : PixelFormat)
  | link (v : LinkView)
  | linkIfAny (v : Option LinkView)
  /-- The frames handed to the sink, and how the run ended. -/
  | run (outputs : List FrameView) (result : Except Error Nat)
  | stage (stats : StageStats)

namespace World

def viewSource (w : World) (source : ContextSource) : SourceView :=
  ⟨source, source.inputPool?.map w.viewPool, w.viewPool source.outputPool⟩

def viewLink (w : World) (link : OutputLink) : LinkView :=
  ⟨link, w.viewPool link.pool⟩

end World

namespace Action

variable {κ : Type}

def showSurface (s : Surface) : Action κ Answer := do
  return .surface (← ofView ((← world).viewSurface? s))

def viewFrame (f : Frame) : Action κ FrameView := do
  ofView ((← world).viewFrame? f)

def showFrame (f : Frame) : Action κ Answer :=
  .frame <$> viewFrame f

def showPool (p : FramePool) : Action κ Answer := do
  return .pool ((← world).viewPool p)

end Action

end VideoScaler
