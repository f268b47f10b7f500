import VideoScaler.Frame.World

/-! Between frames and surfaces of the accelerator.

A surface made here has one holder, which goes to the caller; output frames take the holder
of the surface they are made from, and a frame in host memory needs none.
-/

set_option autoImplicit false

namespace VideoScaler.Bridge

def indexLimit : Nat := 2147483647

def holds (plane : FramePlane) (shape : Format.Shape) : Bool :=
  shape.rowBytes ≤ plane.linesize
    && plane.linesize * (shape.rows - 1) + shape.rowBytes ≤ plane.data.size

def uploadPlanes (format : PixelFormat) :
    Nat → List Format.Shape → List FramePlane → Except FormatError (List Plane)
  | i, shape :: shapes, plane :: planes =>
    if holds plane shape then
      (uploadPlanes format (i + 1) shapes planes).map fun rest =>
        Plane.build shape (fun y x => plane.data.getD (y * plane.linesize + x) 0) :: rest
    else
      .error (.planeTooSmall format i)
  | _, _, _ => .ok []

def upload (frame : Frame) (shapes : List Format.Shape) : Except FormatError (List Plane) :=
  if frame.planes.length < shapes.length then
    .error (.planeCount frame.format frame.planes.length shapes.length)
  else
    uploadPlanes frame.format 0 shapes frame.planes

/-- Copy the samples of a frame in host memory into a new surface. -/
def surfaceOfHost (context : DeviceContext) (frame : Frame) (m : Media) :
    Attempt Error Surface × Media :=
  let format := SurfaceFormat.ofPixelFormat frame.format
  if format = .unknown then (.error (.refused (.format (.noSurfaceFormat frame.format))), m)
  else
    match Media.allocation context.memory .host format frame.width frame.height with
    | .error failure =>
      (.error (failure.map fun status => .resource (.allocSurface status)), m)
    | .ok shapes =>
      match upload frame shapes with
      | .ok planes =>
        let (s, m) := m.makeSurface .host format frame.width frame.height planes
        (.ok s, m)
      | .error e =>
        -- The surface is made before the planes are looked at, and goes again.
        let (s, m) := m.makeSurface .host format frame.width frame.height []
        (.error (.refused (.format e)), m.release s)

def mark (frame : Frame) (s : Surface) (m : Media) : Media :=
  (m.setCrop s (Surface.wholeRect frame.width frame.height)).setPts s frame.pts

/-- A surface with the picture of a frame: the one the frame refers to, a wrapped native
picture, or a copy of the samples. A texture is told which slice to show before it is
wrapped. -/
def toSurface (context : DeviceContext) (frame : Frame) (w : World) :
    Attempt Error Surface × World :=
  match frame.payload with
  | some (.d3d11 texture index) =>
    if indexLimit < index then (.error (.refused (.internal (.textureIndex index))), w)
    else
      -- The slice stays set, also when the texture cannot be wrapped.
      let m := w.media.setPrivateData texture .arrayIndex (Number.fourBytes (Int32.ofNat index))
      match m.wrapTexture context.memory texture with
      | .error status =>
        (.error (.refused (.resource (.wrapTexture status))), { w with media := m })
      | .ok (s, m) => (.ok s, { w with media := mark frame s m })
  | some (.amf buffer) =>
    match w.held? buffer with
    | none => (.error (.refused (.internal .bufferReleased)), w)
    | some s => (.ok s, { w with media := mark frame s (w.media.retain s) })
  | some (.dxva2 picture) =>
    match w.media.wrapDx9 context.memory picture with
    | .error status => (.error (.refused (.resource (.wrapDx9 status))), w)
    | .ok (s, m) => (.ok s, { w with media := mark frame s m })
  | none =>
    match surfaceOfHost context frame w.media with
    | (.ok s, m) => (.ok s, { w with media := m.setPts s frame.pts })
    | (.error failure, m) => (.error failure, { w with media := m })

/-- Copy the samples of a surface plane; what the plane does not have is zero. -/
def downloadPlane? (shape : Format.Shape) (p : Plane) : Option FramePlane := do
  let rows ← (Array.range (min shape.rows p.rows)).mapM p.row?
  return {
    data := Array.ofFn fun i : Fin shape.bytes =>
      match rows[i.val / shape.rowBytes]? with
      | some row => row.getD (i.val % shape.rowBytes) 0
      | none => 0
    linesize := shape.rowBytes }

def download (shapes : List Format.Shape) (planes : List Plane) :
    Nat → Attempt FormatError (List FramePlane)
  | i =>
    match shapes, planes with
    | [], _ => .ok []
    | _ :: _, [] => .error (.refused (.missingPlane i))
    | shape :: shapes, plane :: planes => do
      Attempt.room [shape.bytes]
      let first ← Attempt.ofOption (downloadPlane? shape plane)
      return first :: (← download shapes planes (i + 1))

def hostFrame (pool : FramePool) (s : Surface) (m : Media) : Attempt Error Frame :=
  let format := pool.desc.format
  if SurfaceFormat.ofPixelFormat format ≠ s.format then
    .error (.refused (.format (.surfaceMismatch s.format format)))
  else
    match download (format.shapes s.width.toNat s.height.toNat) (m.planes s) 0 with
    | .ok planes => .ok { format, width := s.width, height := s.height, planes, pool := some pool }
    | .error failure => .error (failure.map Error.format)

def nativePayload? (s : Surface) : Option Payload :=
  match s.memory, s.backing with
  | .dx11, .slice texture _ => some (.d3d11 texture 0)
  | .dx9, .dx9 picture => some (.dxva2 picture)
  | _, _ => none

/-- A frame of a pool with the picture of a surface, whose holder it takes over. -/
def toFrame (pool : FramePool) (s : Surface) (w : World) : Attempt Error Frame × World :=
  match pool.desc.format with
  | .amf =>
    let (frame, w) := w.newFrame pool
    let (buffer, w) := w.addBuffer s true
    (.ok { frame with payload := some (.amf buffer) }, w)
  | .d3d11 | .dxva2 =>
    -- The surface decides on the payload: the format is not compared with its memory.
    match nativePayload? s with
    | none =>
      (.error (.refused (.format (.memoryForOutput s.memory pool.desc.format))),
        { w with media := w.media.release s })
    | some payload =>
      let (frame, w) := w.newFrame pool
      let (buffer, w) := w.addBuffer s true
      (.ok { frame with payload := some payload, backing := some buffer }, w)
  | _ => (hostFrame pool s w.media, { w with media := w.media.release s })

end VideoScaler.Bridge
