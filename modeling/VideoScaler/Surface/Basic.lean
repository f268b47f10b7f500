import VideoScaler.Arena
import VideoScaler.Surface.Plane

/-! Surfaces of the accelerator and the native objects behind some of them.

A handle carries what never changes about an object; what changes is kept in an arena.
-/

set_option autoImplicit false

namespace VideoScaler

structure Rect where
  x : Int32
  y : Int32
  width : Int32
  height : Int32
  deriving DecidableEq, Repr

structure Guid where
  data1 : UInt32
  data2 : UInt16
  data3 : UInt16
  data4 : List UInt8
  deriving DecidableEq, Repr

/-- The key under which the runtime looks for the slice of a texture to read. -/
def Guid.arrayIndex : Guid :=
  ⟨0x28115527, 0xe7c3, 0x4b66, [0x99, 0xd3, 0x4f, 0x2a, 0xe6, 0xb4, 0x7f, 0xaf]⟩

/-- What changes about a texture: the planes of its slices, and private data by key. -/
structure TextureState where
  slices : List (List Plane)
  privateData : List (Guid × Bytes)

structure Texture where
  ref : Ref TextureState
  handle : UInt64
  format : SurfaceFormat
  width : UInt32
  height : UInt32
  arraySize : Nat

/-- A picture owned by a Direct3D 9 device; what changes about it are its planes. -/
structure Dx9Surface where
  ref : Ref (List Plane)
  handle : UInt64
  format : SurfaceFormat
  width : UInt32
  height : UInt32

/-- Where the planes of a surface are kept: with the surface itself, or in a native object
that the surface wraps. -/
inductive Backing where
  | own
  | slice (texture : Texture) (index : Nat)
  | dx9 (surface : Dx9Surface)

/-- What changes about a surface. Planes are its own; those of a native object stay there.
A surface without holders is gone. -/
structure SurfaceState where
  crop : Rect
  pts : Int64
  holders : Nat
  planes : List Plane
  /-- Does the runtime keep account of this surface? -/
  counted : Bool

structure Surface where
  ref : Ref SurfaceState
  memory : MemoryType
  format : SurfaceFormat
  width : UInt32
  height : UInt32
  backing : Backing

namespace Surface

def nativeHandle? (s : Surface) : Option UInt64 :=
  match s.backing with
  | .own => none
  | .slice texture _ => some texture.handle
  | .dx9 surface => some surface.handle

def wholeRect (width height : UInt32) : Rect :=
  ⟨0, 0, width.toInt32, height.toInt32⟩

end Surface

namespace Texture

def text (t : Texture) : String :=
  "D3d11Texture \x7b handle: " ++ toString t.handle ++ ", format: " ++ t.format.name
    ++ ", size: (" ++ toString t.width ++ ", " ++ toString t.height ++ "), array_size: "
    ++ toString t.arraySize ++ " \x7d"

end Texture

namespace Dx9Surface

def text (s : Dx9Surface) : String :=
  "Dx9Surface \x7b handle: " ++ toString s.handle ++ ", format: " ++ s.format.name
    ++ ", size: (" ++ toString s.width ++ ", " ++ toString s.height ++ ") \x7d"

end Dx9Surface

end VideoScaler
