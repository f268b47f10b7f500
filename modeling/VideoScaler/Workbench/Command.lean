import VideoScaler.Workbench.Component
import VideoScaler.Workbench.Device
import VideoScaler.Workbench.Filter
import VideoScaler.Workbench.Picture
import VideoScaler.Workbench.Stage

/-! The commands of a workbench, and runs of them.

A command that is refused does not end a run. A breach does.
-/

set_option autoImplicit false

namespace VideoScaler

inductive Command where
  /-- How many surfaces were created and released. -/
  | surfaces
  | drop (name : String)
  /-- Keep a copy under another name. -/
  | copy (source name : String)
  | device (command : DeviceCommand)
  | picture (command : PictureCommand)
  | frame (command : FrameCommand)
  | component (command : ComponentCommand)
  | scaler (command : ScalerCommand)
  | filter (command : FilterCommand)
  | stage (command : StageCommand)

namespace Object

variable {κ : Type}

/-- A copy of an object that can be copied, which is one more holder of what it refers
to. -/
def copy? (o : Object κ) (w : World) : Option (Object κ × World) :=
  match o with
  | surface s => some (o, { w with media := w.media.retain s })
  | buffer b => some (o, w.retainBuffer b)
  | frame f => some (o, w.retainFrame f)
  | texture _ => some (o, w)
  | _ => none

end Object

namespace Command

variable {κ : Type} [Component κ]

def perform (runtime : Runtime κ) : Command → Action κ Answer
  | surfaces => do
    let m := (← Action.world).media
    return .surfaces m.created m.released m.live
  | drop name => do
    let existed := ((← get).find? name).isSome
    modify fun b => b.drop name
    return .flag existed
  | copy source name => do
    let w ← Action.world
    match ((← get).find? source).bind fun o => o.copy? w with
    | some (o, w) =>
      Action.setWorld w
      Action.store name o
      return .done
    | none => Action.refuse (.missing .surface source)
  | device command => command.perform runtime
  | picture command => command.perform
  | frame command => command.perform
  | component command => command.perform runtime
  | scaler command => command.perform runtime
  | filter command => command.perform runtime
  | stage command => command.perform

end Command

namespace Workbench

variable {κ : Type} [Component κ]

def perform (runtime : Runtime κ) (c : Command) (b : Workbench κ) :
    Attempt Problem Answer × Workbench κ :=
  (c.perform runtime).run.run b

def run (runtime : Runtime κ) : List Command → Workbench κ →
    List (Attempt Problem Answer) × Workbench κ
  | [], b => ([], b)
  | c :: commands, b =>
    match b.perform runtime c with
    | (.error (.broken breach), b) => ([.error (.broken breach)], b)
    | (answer, b) =>
      let (answers, b) := run runtime commands b
      (answer :: answers, b)

end Workbench

end VideoScaler
