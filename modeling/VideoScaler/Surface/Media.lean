import VideoScaler.Surface.Basic

/-! The surfaces and native pictures that exist, and the account of surfaces.

A surface is there while it has holders. The runtime counts the surfaces it makes and those
whose last holder is gone; surfaces made by others are not counted.
-/

set_option autoImplicit false

namespace VideoScaler

structure Media where
  surfaces : Arena SurfaceState
  textures : Arena TextureState
  dx9 : Arena (List Plane)
  created : Nat
  released : Nat

namespace Media

def empty : Media :=
  ⟨.empty, .empty, .empty, 0, 0⟩

def live (m : Media) : Nat :=
  m.created - m.released

def addTexture (m : Media) (handle : UInt64) (format : SurfaceFormat) (width height : UInt32)
    (slices : List (List Plane)) : Texture × Media :=
  let (ref, textures) := m.textures.add ⟨slices, []⟩
  (⟨ref, handle, format, width, height, slices.length⟩, { m with textures })

def addDx9 (m : Media) (handle : UInt64) (format : SurfaceFormat) (width height : UInt32)
    (planes : List Plane) : Dx9Surface × Media :=
  let (ref, dx9) := m.dx9.add planes
  (⟨ref, handle, format, width, height⟩, { m with dx9 })

def slice? (m : Media) (t : Texture) (index : Nat) : Option (List Plane) :=
  (m.textures.get? t.ref).bind fun state => state.slices[index]?

def setPrivateData (m : Media) (t : Texture) (guid : Guid) (data : Bytes) : Media :=
  { m with textures := m.textures.modify t.ref fun state =>
      { state with privateData := (guid, data) :: state.privateData.filter (·.1 ≠ guid) } }

def privateData? (m : Media) (t : Texture) (guid : Guid) : Option Bytes :=
  (m.textures.get? t.ref).bind fun state => state.privateData.lookup guid

/-- The slice that the private data of a texture names; the first one if it names none. -/
def taggedIndex (m : Media) (t : Texture) : Nat :=
  match (m.privateData? t .arrayIndex).bind Number.ofFourBytes? with
  | some index => index.toInt.toNat
  | none => 0

def addSurface (m : Media) (memory : MemoryType) (format : SurfaceFormat)
    (width height : UInt32) (backing : Backing) (planes : List Plane) (counted : Bool) :
    Surface × Media :=
  let (ref, surfaces) :=
    m.surfaces.add ⟨Surface.wholeRect width height, 0, 1, planes, counted⟩
  (⟨ref, memory, format, width, height, backing⟩,
    { m with surfaces, created := m.created + if counted then 1 else 0 })

def modifySurface (m : Media) (s : Surface) (f : SurfaceState → SurfaceState) : Media :=
  { m with surfaces := m.surfaces.modify s.ref f }

def retain (m : Media) (s : Surface) : Media :=
  m.modifySurface s fun state => { state with holders := state.holders + 1 }

/-- One holder less; with the last one the surface goes. -/
def release (m : Media) (s : Surface) : Media :=
  match m.surfaces.get? s.ref with
  | some state =>
    -- The planes of a native object outlive the surfaces that wrap it.
    if state.holders = 1 then
      { m.modifySurface s (fun state => { state with holders := 0, planes := [] }) with
        released := m.released + if state.counted then 1 else 0 }
    else
      m.modifySurface s fun state => { state with holders := state.holders - 1 }
  | none => m

def holders (m : Media) (s : Surface) : Nat :=
  ((m.surfaces.get? s.ref).map SurfaceState.holders).getD 0

def crop (m : Media) (s : Surface) : Rect :=
  ((m.surfaces.get? s.ref).map SurfaceState.crop).getD (Surface.wholeRect s.width s.height)

def setCrop (m : Media) (s : Surface) (crop : Rect) : Media :=
  m.modifySurface s fun state => { state with crop }

def pts (m : Media) (s : Surface) : Int64 :=
  ((m.surfaces.get? s.ref).map SurfaceState.pts).getD 0

def setPts (m : Media) (s : Surface) (pts : Int64) : Media :=
  m.modifySurface s fun state => { state with pts }

def planes (m : Media) (s : Surface) : List Plane :=
  match s.backing with
  | .own => ((m.surfaces.get? s.ref).map SurfaceState.planes).getD []
  | .slice texture index => (m.slice? texture index).getD []
  | .dx9 surface => (m.dx9.get? surface.ref).getD []

def setPlanes (m : Media) (s : Surface) (planes : List Plane) : Media :=
  match s.backing with
  | .own => m.modifySurface s fun state => { state with planes }
  | .slice texture index =>
    { m with textures := m.textures.modify texture.ref fun state =>
        { state with slices := state.slices.set index planes } }
  | .dx9 surface => { m with dx9 := m.dx9.modify surface.ref fun _ => planes }

def surfaceText (m : Media) (s : Surface) : String :=
  "Surface \x7b memory: " ++ s.memory.name ++ ", format: " ++ s.format.name ++ ", size: ("
    ++ toString s.width ++ ", " ++ toString s.height ++ "), refs: " ++ toString (m.holders s)
    ++ " \x7d"

/-! ### What a context makes

A context is known by the memory its surfaces live in. Each of these operations either
makes a counted surface with one holder or changes nothing.
-/

/-- Make a surface with the given planes in host memory or in the memory of the context. A
surface in device memory wraps a new native picture. -/
def makeSurface (m : Media) (memory : MemoryType) (format : SurfaceFormat)
    (width height : UInt32) (planes : List Plane) : Surface × Media :=
  match memory with
  | .dx11 =>
    let (texture, m) := m.addTexture 0 format width height [planes]
    m.addSurface memory format width height (.slice texture 0) [] true
  | .dx9 =>
    let (surface, m) := m.addDx9 0 format width height planes
    m.addSurface memory format width height (.dx9 surface) [] true
  | memory => m.addSurface memory format width height .own planes true

def allocation (context memory : MemoryType) (format : SurfaceFormat) (width height : UInt32) :
    Attempt Status (List Format.Shape) :=
  if memory ≠ .host ∧ memory ≠ context then .error (.refused .notSupported)
  else format.allocation width height

def allocSurface (m : Media) (context memory : MemoryType) (format : SurfaceFormat)
    (width height : UInt32) : Attempt Status (Surface × Media) :=
  (allocation context memory format width height).map fun shapes =>
    m.makeSurface memory format width height (shapes.map Plane.zero)

def wrapTexture (m : Media) (context : MemoryType) (t : Texture) :
    Except Status (Surface × Media) :=
  if context ≠ .dx11 then .error .wrongState
  else
    match m.slice? t (m.taggedIndex t) with
    | none => .error .invalidArg
    | some _ =>
      .ok (m.addSurface .dx11 t.format t.width t.height (.slice t (m.taggedIndex t)) [] true)

def wrapDx9 (m : Media) (context : MemoryType) (s : Dx9Surface) :
    Except Status (Surface × Media) :=
  if context ≠ .dx9 then .error .wrongState
  else .ok (m.addSurface .dx9 s.format s.width s.height (.dx9 s) [] true)

end Media

end VideoScaler
