import VideoScaler.Workbench.Frame

/-! Filters at a workbench. -/

set_option autoImplicit false

namespace VideoScaler

structure LinkDescription where
  format : Option PixelFormat
  width : Option UInt32
  height : Option UInt32
  sar : Ratio
  pool : Option String

inductive FilterCommand where
  /-- Choose a context for a link without a filter. -/
  | setup (link : LinkDescription) (device : Option String) (outFormat : PixelFormat)
      (outSize : Resolution) (userFormat : Option PixelFormat)
  | make (config : Document) (device : Option String) (name : String)
  | queryFormats (filter : String)
  | preferred (filter : String) (link : LinkDescription)
  | configure (filter : String) (link : LinkDescription) (outFormat : Option PixelFormat)
  | output (filter : String)
  | source (filter : String)
  | process (filter : String) (frame : FrameSource) (name : Option String)
  | uninit (filter : String)
  /-- Run over frames with a sink that fails at the output of this number. -/
  | run (filter : String) (frames : List FrameSource) (sinkFailsAt : Option Nat)

variable {κ : Type} [Component κ]

def Action.link (d : LinkDescription) : Action κ InputLink := do
  let pool ← optional Action.pool d.pool
  let base : InputLink := match pool, d.format with
    | some p, none => .ofPool p
    | pool, format =>
      { format := format.getD .nv12, width := 0, height := 0, pool }
  return { base with
    width := d.width.getD base.width, height := d.height.getD base.height, sar := d.sar }

namespace FilterCommand

def change {α : Type} (name : String) (f : ScaleFilter κ → World → α × ScaleFilter κ × World) :
    Action κ α := do
  let filter ← Action.filter name
  let (a, filter) ← Action.onWorld fun w => let (a, filter, w) := f filter w; ((a, filter), w)
  Action.update name (.filter filter)
  return a

/-- A sink that keeps what it is handed as views, and fails at the output of this number. -/
def sink (failsAt : Option Nat) (views : List FrameView) (f : Frame) (w : World) :
    Attempt Error Unit × List FrameView × World :=
  if failsAt = some views.length then
    (.error (.refused (.internal (.note "sink"))), views, w.dropFrame f)
  else
    match w.viewFrame? f with
    | some view => (.ok (), views ++ [view], w.dropFrame f)
    | none => (.error (.broken .outOfRange), views, w.dropFrame f)

def keepFrame (f : Frame) : Option String → Action κ Unit
  | some name => Action.store name (.frame f)
  | none => Action.dropFrame f

def perform (runtime : Runtime κ) : FilterCommand → Action κ Answer
  | setup link device outFormat outSize userFormat => do
    let link ← Action.link link
    let device ← Action.optional Action.device device
    let w ← Action.world
    let (chosen, w) ← Action.ofError
      (Setup.configure runtime link device outFormat outSize userFormat w)
    Action.setWorld w
    return .setup (w.viewSource chosen.source) chosen.layout
  | make config device name => do
    let config ← Action.config config
    let device ← Action.optional Action.device device
    let f ← Action.ofError (ScaleFilter.init config device)
    Action.store name (.filter f)
    return .filter f.config (f.device.map Device.kind)
  | queryFormats name => do
    return .formats (← Action.ofError (← Action.filter name).queryFormats)
  | preferred name link => do
    let f ← Action.filter name
    let link ← Action.link link
    return .format (← Action.ofError (f.preferredOutput link))
  | configure name link outFormat => do
    let f ← Action.filter name
    let link ← Action.link link
    let outFormat ← match outFormat with
      | some format => pure format
      | none => Action.ofError (f.preferredOutput link)
    let result ← change name fun f w => f.configOutput runtime link outFormat w
    let output ← Action.ofError result
    return .link ((← Action.world).viewLink output)
  | output name => do
    let f ← Action.filter name
    return .linkIfAny (f.output?.map (← Action.world).viewLink)
  | source name => do
    let f ← Action.filter name
    return .source (f.source?.map (← Action.world).viewSource)
  | process name frame target => do
    let _ ← Action.filter name
    let input ← Action.copyFrame frame.toScale
    let result ← change name fun f w => f.filterFrame input w
    let out ← Action.ofAttempt (result.mapRefusal .error)
    let answer ← Action.showFrame out
    keepFrame out target
    return answer
  | uninit name => do
    change name fun f w => let (f, w) := f.uninit w; ((), f, w)
    return .done
  | run name frames failsAt => do
    let _ ← Action.filter name
    let frames ← frames.mapM fun frame => Action.borrowFrame frame.toScale
    let (result, views) ← change name fun f w =>
      let (result, f, views, w) :=
        f.run (sink failsAt) frames 0 [] (frames.foldl World.retainFrame w)
      ((result, views), f, w)
    match result with
    | .ok count => return .run views (.ok count)
    | .error (.refused e) => return .run views (.error e)
    | .error (.broken breach) => Action.ofAttempt (.error (.broken breach))

end FilterCommand

end VideoScaler
