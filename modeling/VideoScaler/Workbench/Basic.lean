import VideoScaler.Config.Document
import VideoScaler.Stage.Basic

/-! A workbench: devices, pictures, frames, components, filters and stages kept by name.

Whatever is kept under a name is one of the holders of what it refers to. Putting an object
under a name gives up the one that was there.
-/

set_option autoImplicit false

namespace VideoScaler

inductive ObjectKind where
  | context | device | pool | texture | dx9 | surface | buffer | frame | component | scaler
  | filter | stage
  deriving DecidableEq, Repr

def ObjectKind.label : ObjectKind → String
  | context => "Context"
  | device => "Device"
  | pool => "Pool"
  | texture => "Texture"
  | dx9 => "Dx9"
  | surface => "Surface"
  | buffer => "Buffer"
  | frame => "Frame"
  | component => "Component"
  | scaler => "Scaler"
  | filter => "Filter"
  | stage => "Stage"

inductive Object (κ : Type) where
  | context (c : DeviceContext)
  | device (d : Device)
  | pool (p : FramePool)
  | texture (t : Texture)
  | dx9 (s : Dx9Surface)
  | surface (s : Surface)
  | buffer (b : FrameBuffer)
  | frame (f : Frame)
  | component (c : κ)
  | scaler (s : Scaler κ)
  | filter (f : ScaleFilter κ)
  | stage (s : Stage κ)

inductive Problem where
  | missing (kind : ObjectKind) (name : String)
  /-- A document is not a configuration. -/
  | unreadable
  /-- The samples given for a frame are not enough, or its format has none. -/
  | samples
  /-- The action would wait for good. -/
  | stalled
  | status (s : Status)
  | error (e : Error)

structure Workbench (κ : Type) where
  objects : List (String × Object κ)
  world : World

/-- Something done at a workbench. A workbench keeps what was done before a failure. -/
abbrev Action (κ α : Type) := ExceptT (Failure Problem) (StateM (Workbench κ)) α

namespace Object

variable {κ : Type} [Component κ]

def discard (o : Object κ) (w : World) : World :=
  match o with
  | context _ | device _ | pool _ | texture _ | dx9 _ => w
  | surface s => { w with media := w.media.release s }
  | buffer b => w.dropBuffer b
  | frame f => w.dropFrame f
  | component c => { w with media := Component.discard c w.media }
  | scaler s => { w with media := (s.terminate w.media).2 }
  | filter f => (f.uninit w).2
  | stage s => (s.drain w).2

end Object

namespace Workbench

variable {κ : Type}

def empty : Workbench κ :=
  ⟨[], .empty⟩

def find? (b : Workbench κ) (name : String) : Option (Object κ) :=
  b.objects.lookup name

def remove (b : Workbench κ) (name : String) : Workbench κ :=
  { b with objects := b.objects.filter fun entry => entry.1 ≠ name }

def put (b : Workbench κ) (name : String) (o : Object κ) : Workbench κ :=
  { b with objects := (name, o) :: (b.remove name).objects }

variable [Component κ]

def drop (b : Workbench κ) (name : String) : Workbench κ :=
  match b.find? name with
  | some o => { b.remove name with world := o.discard b.world }
  | none => b

def store (b : Workbench κ) (name : String) (o : Object κ) : Workbench κ :=
  (b.drop name).put name o

end Workbench

namespace Action

variable {κ α : Type}

def ofAttempt (a : Attempt Problem α) : Action κ α :=
  ExceptT.mk (pure a)

def ofError (r : Except Error α) : Action κ α :=
  ofAttempt ((Attempt.ofExcept r).mapRefusal .error)

def ofStatus (r : Except Status α) : Action κ α :=
  ofAttempt ((Attempt.ofExcept r).mapRefusal .status)

def ofView (view : Option α) : Action κ α :=
  ofAttempt (Attempt.ofOption view)

def refuse (p : Problem) : Action κ α :=
  ofAttempt (.error (.refused p))

def world : Action κ World :=
  return (← get).world

def setWorld (w : World) : Action κ Unit :=
  modify fun b => { b with world := w }

def onWorld (f : World → α × World) : Action κ α := do
  let (a, w) := f (← world)
  setWorld w
  return a

def onMedia (f : Media → α × Media) : Action κ α :=
  onWorld fun w => let (a, media) := f w.media; (a, { w with media })

def store [Component κ] (name : String) (o : Object κ) : Action κ Unit :=
  modify fun b => b.store name o

def update (name : String) (o : Object κ) : Action κ Unit :=
  modify fun b => b.put name o

def find (kind : ObjectKind) (pick : Object κ → Option α) (name : String) : Action κ α := do
  match ((← get).find? name).bind pick with
  | some a => return a
  | none => refuse (.missing kind name)

def context : String → Action κ DeviceContext :=
  find .context fun | .context c => some c | _ => none

def device : String → Action κ Device :=
  find .device fun | .device d => some d | _ => none

def pool : String → Action κ FramePool :=
  find .pool fun | .pool p => some p | _ => none

def texture : String → Action κ Texture :=
  find .texture fun | .texture t => some t | _ => none

def dx9 : String → Action κ Dx9Surface :=
  find .dx9 fun | .dx9 s => some s | _ => none

def surface : String → Action κ Surface :=
  find .surface fun | .surface s => some s | _ => none

def buffer : String → Action κ FrameBuffer :=
  find .buffer fun | .buffer b => some b | _ => none

def frame : String → Action κ Frame :=
  find .frame fun | .frame f => some f | _ => none

def component : String → Action κ κ :=
  find .component fun | .component c => some c | _ => none

def scaler : String → Action κ (Scaler κ) :=
  find .scaler fun | .scaler s => some s | _ => none

def filter : String → Action κ (ScaleFilter κ) :=
  find .filter fun | .filter f => some f | _ => none

def stage : String → Action κ (Stage κ) :=
  find .stage fun | .stage s => some s | _ => none

def config (d : Document) : Action κ ScaleConfig :=
  match ScaleConfig.ofDocument? .null d with
  | some c => return c
  | none => refuse .unreadable

def optional (find : String → Action κ α) : Option String → Action κ (Option α)
  | some name => some <$> find name
  | none => return none

end Action

end VideoScaler
