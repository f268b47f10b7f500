import VideoScaler.Filter.Basic

/-! A scale filter at work on its own, between two bounded queues of frames.

The worker takes frames in order and holds one result at a time until the output queue has
room. A failed operation costs the frame it concerns; any other error ends the worker.
Once the input is closed and used up, the worker ends by itself, and also when nobody is there
any more to receive a result. A queue of capacity zero holds nothing: frames go from hand to
hand.

Each function below is one step of one of the parties, or nothing when that party has to
wait; what the parties do together is any sequence of such steps. The worker takes a step for
each moment at which the others can see what it has done.
-/

set_option autoImplicit false

namespace VideoScaler

structure StageStats where
  received : Nat
  forwarded : Nat
  failed : Nat
  deriving DecidableEq, Repr

/-- How a worker ended: at the end of the input or of the output, at an error, or by a
breach. -/
inductive StageEnd where
  | finished
  | stopped (error : Error)
  | broken

inductive StageWorker (κ : Type) where
  /-- At the input queue. -/
  | waiting (filter : ScaleFilter κ)
  /-- With a frame from the queue that is not counted yet. -/
  | taken (filter : ScaleFilter κ) (frame : Frame)
  | counted (filter : ScaleFilter κ) (frame : Frame)
  /-- With what the filter has made of a frame, which is not counted yet. -/
  | scaled (filter : ScaleFilter κ) (result : Except Error Frame)
  /-- At the output queue, with a result to hand on. -/
  | sending (filter : ScaleFilter κ) (out : Frame)
  /-- Done with its work, while both queues are still open. -/
  | leaving (filter : ScaleFilter κ) (outcome : StageEnd)
  | ended (outcome : StageEnd)

structure Stage (κ : Type) where
  capacity : Nat
  /-- The frames that were sent and not yet taken, oldest first. -/
  input : List Frame
  /-- Has the end of the input been announced? -/
  closed : Bool
  worker : StageWorker κ
  /-- The results that were handed on and not yet received, oldest first. -/
  output : List Frame
  /-- Is there still somebody to receive results? -/
  heard : Bool
  stats : StageStats

namespace Stage

variable {κ : Type}

def spawn (filter : ScaleFilter κ) (capacity : Nat) : Except Error (Stage κ) :=
  if filter.configured.isSome then
    .ok ⟨capacity, [], false, .waiting filter, [], true, ⟨0, 0, 0⟩⟩
  else
    .error .notConfigured

def hasEnded (s : Stage κ) : Bool :=
  match s.worker with
  | .ended _ => true
  | _ => false

def isIdle (s : Stage κ) : Bool :=
  match s.worker with
  | .waiting _ => s.input.isEmpty
  | _ => false

def hasRoom (s : Stage κ) : Bool :=
  s.input.length < s.capacity || (s.capacity = 0 && s.isIdle)

/-- Send a frame; nothing when the sender has to wait. A stage that was closed or has ended
takes no more frames, and the frame is given up. -/
def send? (s : Stage κ) (frame : Frame) (w : World) :
    Option (Except Error Unit × Stage κ × World) :=
  if s.closed || s.hasEnded then some (.error .stageClosed, s, w.dropFrame frame)
  else if s.hasRoom then some (.ok (), { s with input := s.input ++ [frame] }, w)
  else none

def finish (s : Stage κ) : Stage κ :=
  { s with closed := true }

def receive? (s : Stage κ) : Option (Frame × Stage κ) :=
  match s.output, s.worker with
  | frame :: output, _ => some (frame, { s with output })
  -- With no room in between, a result goes from the hand of the worker to the receiver.
  | [], .sending filter out =>
    if s.heard then some (out, { s with worker := .waiting filter }) else none
  | [], _ => none

def hangUp (s : Stage κ) (w : World) : Stage κ × World :=
  ({ s with heard := false, output := [] }, s.output.foldl World.dropFrame w)

def isExhausted (s : Stage κ) : Bool :=
  s.output.isEmpty && s.hasEnded

variable [Component κ]

/-- End the worker: the filter and the frames that were not taken are given up. -/
def endWith (s : Stage κ) (filter : ScaleFilter κ) (outcome : StageEnd) (w : World) :
    Stage κ × World :=
  let (_, w) := filter.uninit w
  ({ s with worker := .ended outcome, input := [] }, s.input.foldl World.dropFrame w)

def count (s : Stage κ) (filter : ScaleFilter κ) : Except Error Frame → Stage κ
  | .ok out =>
    { s with
      worker := .sending filter out
      stats := { s.stats with forwarded := s.stats.forwarded + 1 } }
  | .error e =>
    { s with
      -- One frame is lost at most, unless the failure concerns all that follow as well.
      worker := if e.isRecoverable then .waiting filter else .leaving filter (.stopped e)
      stats := { s.stats with failed := s.stats.failed + 1 } }

/-- One step of the worker; nothing when it has to wait. -/
def work? (s : Stage κ) (w : World) : Option (Stage κ × World) :=
  match s.worker with
  | .waiting filter =>
    match s.input with
    | frame :: input => some ({ s with input, worker := .taken filter frame }, w)
    | [] => if s.closed then some ({ s with worker := .leaving filter .finished }, w) else none
  | .taken filter frame =>
    some ({ s with
      worker := .counted filter frame
      stats := { s.stats with received := s.stats.received + 1 } }, w)
  | .counted filter frame =>
    match filter.filterFrame frame w with
    | (.ok out, filter, w) => some ({ s with worker := .scaled filter (.ok out) }, w)
    | (.error (.refused e), filter, w) => some ({ s with worker := .scaled filter (.error e) }, w)
    | (.error (.broken _), filter, w) => some ({ s with worker := .leaving filter .broken }, w)
  | .scaled filter result => some (s.count filter result, w)
  | .sending filter out =>
    if !s.heard then some ({ s with worker := .leaving filter .finished }, w.dropFrame out)
    else if s.output.length < s.capacity then
      some ({ s with worker := .waiting filter, output := s.output ++ [out] }, w)
    else
      none
  | .leaving filter outcome => some (s.endWith filter outcome w)
  | .ended _ => none

/-- How many steps the worker can take at most before it has to wait for the sender. A frame
takes it five. -/
def stepsLeft (s : Stage κ) : Nat :=
  5 * s.input.length +
    match s.worker with
    | .taken _ _ => 6
    | .counted _ _ => 5
    | .scaled _ _ => 4
    | .sending _ _ => 3
    | .waiting _ => 2
    | .leaving _ _ => 1
    | .ended _ => 0

def workFor : Nat → Stage κ → World → Stage κ × World
  | 0, s, w => (s, w)
  | steps + 1, s, w =>
    match s.work? w with
    | some (s, w) => workFor steps s w
    | none => (s, w)

def settle (s : Stage κ) (w : World) : Stage κ × World :=
  workFor s.stepsLeft s w

def drainFor : Nat → Stage κ → World → Stage κ × World
  | 0, s, w => (s, w)
  | rounds + 1, s, w =>
    match s.receive? with
    | some (frame, s) => drainFor rounds s (w.dropFrame frame)
    | none =>
      match s.work? w with
      | some (s, w) => drainFor rounds s w
      | none => (s, w)

/-- Close the input and let the worker come to its end. Results that were not received are
given up. -/
def drain (s : Stage κ) (w : World) : Stage κ × World :=
  drainFor (s.stepsLeft + s.output.length) s.finish w

/-- The counters of a stage that has come to its end, or the error that ended it. -/
def outcome (s : Stage κ) : Except Error StageStats :=
  match s.worker with
  | .ended (.stopped e) => .error e
  | .ended .broken => .error (.internal .stageBroke)
  | _ => .ok s.stats

end Stage

end VideoScaler
