import VideoScaler.Workbench.Answer

/-! Components and scalers at a workbench. -/

set_option autoImplicit false

namespace VideoScaler

inductive ComponentCommand where
  /-- Make a component, straight from the runtime or as an operation of the context. -/
  | make (context id : String) (asOperation : Bool) (name : String)
  | setProperty (component property : String) (value : Variant)
  | property (component property : String)
  | init (component : String) (format : SurfaceFormat) (width height : Int32)
  /-- Hand over a surface that stays where it is as well. -/
  | submitSurface (component surface : String)
  | submitBuffer (component : String) (data : Bytes)
  | query (component : String) (name : String)
  | terminate (component : String)

inductive ScalerCommand where
  | make (name : String)
  | configure (scaler context : String) (outFormat : PixelFormat) (outSize : Resolution)
      (inFormat : PixelFormat) (inSize : Resolution) (config : Document)
  | process (scaler surface : String) (name : String)
  | terminate (scaler : String)
  | view (scaler : String)

variable {κ : Type} [Component κ]

namespace ComponentCommand

def change {α : Type} (name : String) (f : κ → Media → α × κ × Media) : Action κ α := do
  let c ← Action.component name
  let (a, c) ← Action.onMedia fun m => let (a, c, m) := f c m; ((a, c), m)
  Action.update name (.component c)
  return a

def submit (name : String) (data : Data) : Action κ Answer := do
  let result ← change name fun c m => Component.submit c data m
  Action.ofAttempt (result.mapRefusal .status)
  return .done

def perform (runtime : Runtime κ) : ComponentCommand → Action κ Answer
  | make context id asOperation name => do
    let context ← Action.context context
    let c ← if asOperation then Action.ofError (context.createComponent runtime id)
      else Action.ofStatus (runtime.createComponent context.memory id)
    Action.store name (.component c)
    return .done
  | setProperty name key value => do
    let result ← change name fun c m =>
      let (result, c) := Component.setProperty c key value
      (result, c, m)
    Action.ofStatus result
    return .done
  | property name key => do
    return .value (Component.property? (← Action.component name) key)
  | init name format width height => do
    let result ← change name fun c m =>
      let (result, c) := Component.init c format width height
      (result, c, m)
    Action.ofStatus result
    return .done
  | submitSurface name surface => do
    let _ ← Action.component name
    let s ← Action.surface surface
    Action.onMedia fun m => ((), m.retain s)
    submit name (.surface s)
  | submitBuffer name data => submit name (.buffer data)
  | query name result => do
    match ← Action.ofStatus (← change name Component.query) with
    | .surface s =>
      let answer ← Action.showSurface s
      Action.store result (.surface s)
      return answer
    | .buffer _ => Action.refuse (.status .noInterface)
  | terminate name => do
    Action.ofStatus (← change name Component.terminate)
    return .done

end ComponentCommand

namespace ScalerCommand

def change {α : Type} (name : String) (f : Scaler κ → Media → α × Scaler κ × Media) :
    Action κ α := do
  let s ← Action.scaler name
  let (a, s) ← Action.onMedia fun m => let (a, s, m) := f s m; ((a, s), m)
  Action.update name (.scaler s)
  return a

def perform (runtime : Runtime κ) : ScalerCommand → Action κ Answer
  | make name => do
    Action.store name (.scaler .new)
    return .done
  | configure name context outFormat outSize inFormat inSize config => do
    let config ← Action.config config
    let _ ← Action.scaler name
    let context ← Action.context context
    let result ← change name fun s m =>
      s.configure runtime context outFormat outSize config inFormat inSize m
    Action.ofError result
    return .done
  | process name surface target => do
    let _ ← Action.scaler name
    let s ← Action.surface surface
    let result ← change name fun scaler m => scaler.process s (m.retain s)
    let output ← Action.ofAttempt (result.mapRefusal .error)
    let answer ← Action.showSurface output
    Action.store target (.surface output)
    return answer
  | terminate name => do
    change name fun s m => let (s, m) := s.terminate m; ((), s, m)
    return .done
  | view name => do
    let s ← Action.scaler name
    return .scaler s.state s.frames

end ScalerCommand

end VideoScaler
