import VideoScaler.Device.Context
import VideoScaler.Format.Color
import VideoScaler.Ratio
import VideoScaler.Surface.Basic

/-! Video frames.

A frame has its samples in host memory, or refers to a picture on a device. Frames are
plain values: what they refer to is kept elsewhere, and whoever copies or drops a frame has
to say so there.
-/

set_option autoImplicit false

namespace VideoScaler

structure FramePlane where
  data : Bytes
  /-- Bytes from the start of a row to the start of the next one. -/
  linesize : Nat
  deriving DecidableEq

namespace FramePlane

def row? (p : FramePlane) (y count : Nat) : Option Bytes :=
  let start := y * p.linesize
  if start + count ≤ p.data.size then some (p.data.extract start (start + count)) else none

end FramePlane

/-- What changes about a buffer. A buffer holds one surface until it is released, and tells
its maker about it if that was asked for. -/
structure BufferState where
  surface : Option Surface
  /-- The copies of the buffer that are alive. -/
  holders : Nat
  notifies : Bool
  /-- How often the maker was told. -/
  notified : Nat

abbrev FrameBuffer := Ref BufferState

structure PoolDesc where
  /-- The memory the frames live in, or a layout in host memory. -/
  format : PixelFormat
  /-- The layout of the samples. -/
  swFormat : PixelFormat
  width : UInt32
  height : UInt32
  deriving DecidableEq, Repr

structure PoolState where
  /-- The frames handed out so far. -/
  allocated : Nat

structure FramePool where
  ref : Ref PoolState
  desc : PoolDesc
  device : Device

inductive Payload where
  | amf (buffer : FrameBuffer)
  | d3d11 (texture : Texture) (index : Nat)
  | dxva2 (surface : Dx9Surface)

structure Frame where
  format : PixelFormat
  width : UInt32
  height : UInt32
  pts : Int64 := 0
  sar : Ratio := Ratio.unset
  color : ColorProperties := {}
  metadata : List (String × String) := []
  /-- Samples in host memory; none for a frame on a device. -/
  planes : List FramePlane := []
  payload : Option Payload := none
  /-- What keeps the surface behind a native picture alive. -/
  backing : Option FrameBuffer := none
  pool : Option FramePool := none

namespace Frame

def blank (format : PixelFormat) (width height : UInt32) : Frame :=
  { format, width, height
    planes := (format.shapes width.toNat height.toNat).map fun shape =>
      ⟨Array.replicate shape.bytes 0, shape.rowBytes⟩ }

def cutPlanes (data : Bytes) : Nat → List Format.Shape → List FramePlane
  | _, [] => []
  | offset, shape :: shapes =>
    ⟨data.extract offset (offset + shape.bytes), shape.rowBytes⟩
      :: cutPlanes data (offset + shape.bytes) shapes

/-- A frame in host memory from bytes without padding; more bytes than needed are left
alone. -/
def ofPacked? (format : PixelFormat) (width height : UInt32) (data : Bytes) : Option Frame :=
  match format.shapes width.toNat height.toNat with
  | [] => none
  | shapes =>
    if data.size < Format.packedBytes shapes then none
    else some { format, width, height, planes := cutPlanes data 0 shapes }

def meaningfulRows? (plane : FramePlane) (shape : Format.Shape) : Option (List Bytes) :=
  (List.range shape.rows).mapM fun y => plane.row? y shape.rowBytes

/-- The samples without padding, if the planes have all of them. -/
def packed? (f : Frame) : Option Bytes := do
  let planes := f.planes.zip (f.format.shapes f.width.toNat f.height.toNat)
  let rows : List (List Bytes) ← planes.mapM fun (plane, shape) => meaningfulRows? plane shape
  return rows.flatten.foldl (· ++ ·) #[]

def isHardware (f : Frame) : Bool :=
  f.payload.isSome

def copyProperties (f source : Frame) : Frame :=
  { f with
    pts := source.pts
    sar := source.sar
    color := source.color
    metadata := source.metadata }

def buffers (f : Frame) : List FrameBuffer :=
  (match f.payload with
  | some (.amf buffer) => [buffer]
  | _ => []) ++ f.backing.toList

end Frame

end VideoScaler
