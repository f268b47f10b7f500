import VideoScaler.Workbench.Frame

/-! Stages at a workbench. A stage goes on by itself between commands until it has to wait. -/

set_option autoImplicit false

namespace VideoScaler

inductive StageCommand where
  /-- Start a stage with a filter, which is given away. -/
  | start (filter : String) (capacity : Nat) (name : String)
  | send (stage : String) (frame : FrameSource)
  | receive (stage : String)
  /-- Receive, unless there is nothing for some time. -/
  | receiveInTime (stage : String)
  | finish (stage : String)
  | stats (stage : String)
  | join (stage : String)

variable {κ : Type} [Component κ]

namespace StageCommand

def change {α : Type} (name : String) (f : Stage κ → World → α × Stage κ × World) :
    Action κ α := do
  let stage ← Action.stage name
  let (a, stage) ← Action.onWorld fun w =>
    let (a, stage, w) := f stage w
    let (stage, w) := stage.settle w
    ((a, stage), w)
  Action.update name (.stage stage)
  return a

def takeFilter (name : String) : Action κ (ScaleFilter κ) := do
  let f ← Action.filter name
  modify fun b => b.remove name
  return f

/-- The oldest result, without the count of its pool, which may still be growing. -/
def receiveFrame? (name : String) : Action κ (Option FrameView) := do
  let received ← change name fun s w =>
    match s.receive? with
    | some (f, s) => (some f, s, w)
    | none => (none, s, w)
  match received with
  | none => return none
  | some f =>
    let view ← Action.viewFrame f
    Action.dropFrame f
    return some { view with pool := view.pool.map fun p => { p with allocated := none } }

def perform : StageCommand → Action κ Answer
  | start filter capacity name => do
    let f ← takeFilter filter
    match Stage.spawn f capacity with
    | .ok s =>
      Action.store name (.stage s)
      return .done
    | .error e =>
      -- The filter was given away already, and goes with the stage that was not started.
      Action.onWorld fun w => ((), (f.uninit w).2)
      Action.refuse (.error e)
  | send name frame => do
    let s ← Action.stage name
    let f ← Action.copyFrame frame.toScale
    match s.send? f (← Action.world) with
    | none => Action.refuse .stalled
    | some (result, s, w) =>
      change name fun _ _ => ((), s, w)
      Action.ofError result
      return .done
  | receive name => do
    let s ← Action.stage name
    match ← receiveFrame? name with
    | some view => return .frameIfAny (some view)
    | none => if s.isExhausted then return .frameIfAny none else Action.refuse .stalled
  | receiveInTime name => do
    let s ← Action.stage name
    match ← receiveFrame? name with
    | some view => return .frameIfAny (some view)
    | none =>
      if s.isExhausted then Action.refuse (.error .stageClosed) else return .frameIfAny none
  | finish name => do
    change name fun s w => ((), s.finish, w)
    return .done
  | stats name => do
    return .stage (← Action.stage name).stats
  | join name => do
    let s ← Action.stage name
    modify fun b => b.remove name
    let s ← Action.onWorld fun w => s.drain w
    return .stage (← Action.ofError s.outcome)

end StageCommand

end VideoScaler
