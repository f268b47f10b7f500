import VideoScaler.Error
import VideoScaler.Frame.Basic
import VideoScaler.Surface.Media

/-! Everything that exists apart from the values that refer to it: surfaces, buffers and
pools.

A buffer gives up its surface once: when it is released, or when its last copy goes.
-/

set_option autoImplicit false

namespace VideoScaler

structure World where
  media : Media
  buffers : Arena BufferState
  pools : Arena PoolState

namespace World

def empty : World :=
  ⟨.empty, .empty, .empty⟩

/-- Make a buffer that holds a surface, taking over the holder of the caller. -/
def addBuffer (w : World) (surface : Surface) (notifies : Bool) : FrameBuffer × World :=
  let (buffer, buffers) := w.buffers.add ⟨some surface, 1, notifies, 0⟩
  (buffer, { w with buffers })

def held? (w : World) (b : FrameBuffer) : Option Surface :=
  (w.buffers.get? b).bind BufferState.surface

/-- Has a buffer not been released yet? It is released and gives up its surface at once, so that the
one tells the other. -/
def isLive (w : World) (b : FrameBuffer) : Bool :=
  (w.held? b).isSome

def releaseBuffer (w : World) (b : FrameBuffer) : World :=
  match w.held? b with
  | some surface =>
    { w with
      media := w.media.release surface
      buffers := w.buffers.modify b fun state =>
        { state with
          surface := none
          notified := state.notified + if state.notifies then 1 else 0 } }
  | none => w

def retainBuffer (w : World) (b : FrameBuffer) : World :=
  { w with buffers := w.buffers.modify b fun state => { state with holders := state.holders + 1 } }

def dropBuffer (w : World) (b : FrameBuffer) : World :=
  -- The surface goes with the last copy, unless it was given up before.
  let w := match w.buffers.get? b with
    | some state => if state.holders = 1 then w.releaseBuffer b else w
    | none => w
  { w with buffers := w.buffers.modify b fun state => { state with holders := state.holders - 1 } }

def bufferText (w : World) (b : FrameBuffer) : String :=
  let surface := match w.held? b with
    | some surface => "Some(" ++ w.media.surfaceText surface ++ ")"
    | none => "None"
  "FrameBuffer \x7b surface: " ++ surface ++ ", live: " ++ toString (w.isLive b) ++ " \x7d"

/-- A copy of a frame has been made. -/
def retainFrame (w : World) (f : Frame) : World :=
  f.buffers.foldl retainBuffer w

def dropFrame (w : World) (f : Frame) : World :=
  f.buffers.foldl dropBuffer w

def addPool (w : World) (device : Device) (desc : PoolDesc) : Except Error (FramePool × World) :=
  if desc.width = 0 ∨ desc.height = 0 then
    .error (.config (.poolSize desc.width desc.height))
  else if desc.swFormat.isHardware then
    .error (.config (.poolLayout desc.swFormat))
  else
    let (ref, pools) := w.pools.add ⟨0⟩
    .ok (⟨ref, desc, device⟩, { w with pools })

def allocated (w : World) (pool : FramePool) : Nat :=
  ((w.pools.get? pool.ref).map PoolState.allocated).getD 0

def newFrame (w : World) (pool : FramePool) : Frame × World :=
  ({ format := pool.desc.format, width := pool.desc.width, height := pool.desc.height,
      pool := some pool },
    { w with pools := w.pools.modify pool.ref fun state => ⟨state.allocated + 1⟩ })

end World

end VideoScaler
