import VideoScaler.Frame.World

/-! What is shown of pictures, frames and pools.

Of a plane the meaningful bytes are shown. A plane whose data is too short for its rows
cannot be shown.
-/

set_option autoImplicit false

namespace VideoScaler

structure PlaneView where
  pitch : Nat
  rowBytes : Nat
  rows : Nat
  content : List Bytes

structure SurfaceView where
  surface : Surface
  crop : Rect
  pts : Int64
  holders : Nat
  planes : List PlaneView

structure PoolView where
  pool : FramePool
  /-- How many frames were handed out, where that is known. -/
  allocated : Option Nat

inductive PayloadView where
  /-- A buffer that has given up its surface. -/
  | released
  | amf (surface : Surface) (pts : Int64) (planes : List PlaneView)
  | d3d11 (texture : Texture) (index tag : Nat) (planes : Option (List PlaneView))
  | dxva2 (surface : Dx9Surface) (planes : List PlaneView)

structure FrameView where
  frame : Frame
  payload : Option PayloadView
  /-- Does the buffer that keeps a native picture alive still hold its surface? -/
  backing : Option Bool
  pool : Option PoolView

structure TextureView where
  texture : Texture
  tag : Nat
  data : Option Bytes
  slice : Option (List PlaneView)

structure Dx9View where
  surface : Dx9Surface
  planes : List PlaneView

structure BufferView where
  live : Bool
  notified : Nat
  holders : Nat
  text : String

def Plane.view? (p : Plane) : Option PlaneView :=
  p.meaningful?.map fun content => ⟨p.pitch, p.rowBytes, p.rows, content⟩

def viewPlanes? (planes : List Plane) : Option (List PlaneView) :=
  planes.mapM Plane.view?

def viewPlanesIfAny? : Option (List Plane) → Option (Option (List PlaneView))
  | some planes => (viewPlanes? planes).map some
  | none => some none

namespace World

def viewSurface? (w : World) (s : Surface) : Option SurfaceView := do
  return ⟨s, w.media.crop s, w.media.pts s, w.media.holders s,
    ← viewPlanes? (w.media.planes s)⟩

def viewPool (w : World) (pool : FramePool) : PoolView :=
  ⟨pool, some (w.allocated pool)⟩

def viewPayload? (w : World) : Payload → Option PayloadView
  | .amf buffer =>
    match w.held? buffer with
    | some s => do return .amf s (w.media.pts s) (← viewPlanes? (w.media.planes s))
    | none => some .released
  | .d3d11 texture index => do
    return .d3d11 texture index (w.media.taggedIndex texture)
      (← viewPlanesIfAny? (w.media.slice? texture index))
  | .dxva2 s => do
    return .dxva2 s (← viewPlanes? ((w.media.dx9.get? s.ref).getD []))

def viewPayloadIfAny? (w : World) : Option Payload → Option (Option PayloadView)
  | some payload => (w.viewPayload? payload).map some
  | none => some none

def viewFrame? (w : World) (f : Frame) : Option FrameView := do
  return ⟨f, ← w.viewPayloadIfAny? f.payload, f.backing.map fun b => (w.held? b).isSome,
    f.pool.map w.viewPool⟩

def viewTexture? (w : World) (t : Texture) (index : Nat) : Option TextureView := do
  return ⟨t, w.media.taggedIndex t, w.media.privateData? t .arrayIndex,
    ← viewPlanesIfAny? (w.media.slice? t index)⟩

def viewDx9? (w : World) (s : Dx9Surface) : Option Dx9View := do
  return ⟨s, ← viewPlanes? ((w.media.dx9.get? s.ref).getD [])⟩

def viewBuffer (w : World) (b : FrameBuffer) : BufferView :=
  let state := w.buffers.get? b
  { live := w.isLive b
    notified := (state.map BufferState.notified).getD 0
    holders := (state.map BufferState.holders).getD 0
    text := w.bufferText b }

end World

end VideoScaler
