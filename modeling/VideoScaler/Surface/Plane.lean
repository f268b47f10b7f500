import VideoScaler.Error

/-! Planes of surfaces: rows of bytes at a fixed distance from each other.

The distance of the rows that the accelerator lays out is a multiple of 64 bytes. What
stands between the meaningful part of a row and the next row is padding.
-/

set_option autoImplicit false

namespace VideoScaler

structure Plane where
  data : Bytes
  /-- Bytes from the start of a row to the start of the next one. -/
  pitch : Nat
  /-- Meaningful bytes in a row. -/
  rowBytes : Nat
  rows : Nat
  deriving DecidableEq

namespace Plane

def pitchFor (rowBytes : Nat) : Nat :=
  max ((rowBytes + 63) / 64) 1 * 64

def bytesFor (shape : Format.Shape) : Nat :=
  pitchFor shape.rowBytes * shape.rows

/-- A plane laid out by the accelerator whose meaningful bytes are given by row and column.
Padding is zero. -/
def build (shape : Format.Shape) (byte : Nat → Nat → UInt8) : Plane :=
  let pitch := pitchFor shape.rowBytes
  { data := Array.ofFn fun i : Fin (pitch * shape.rows) =>
      if i.val % pitch < shape.rowBytes then byte (i.val / pitch) (i.val % pitch) else 0
    pitch
    rowBytes := shape.rowBytes
    rows := shape.rows }

def zero (shape : Format.Shape) : Plane :=
  { data := Array.replicate (bytesFor shape) 0
    pitch := pitchFor shape.rowBytes
    rowBytes := shape.rowBytes
    rows := shape.rows }

def packed (data : Bytes) (rowBytes rows : Nat) : Plane :=
  ⟨data, rowBytes, rowBytes, rows⟩

def row? (p : Plane) (y : Nat) : Option Bytes :=
  let start := y * p.pitch
  if start + p.rowBytes ≤ p.data.size then some (p.data.extract start (start + p.rowBytes))
  else none

def meaningful? (p : Plane) : Option (List Bytes) :=
  (List.range p.rows).mapM p.row?

theorem rowBytes_le_pitchFor (n : Nat) : n ≤ pitchFor n := by
  simp only [pitchFor]
  omega

theorem pitchFor_pos (n : Nat) : 0 < pitchFor n := by
  simp only [pitchFor]
  omega

end Plane

namespace SurfaceFormat

def planeBytes (f : SurfaceFormat) (width height : Nat) : List Nat :=
  (f.shapes width height).map Plane.bytesFor

def Fits (f : SurfaceFormat) (width height : Nat) : Prop :=
  Bytes.Fit (f.planeBytes width height)

instance (f : SurfaceFormat) (width height : Nat) : Decidable (f.Fits width height) :=
  inferInstanceAs (Decidable (Bytes.Fit _))

/-- The shapes of the planes of a new surface, for which there has to be room. -/
def allocation (f : SurfaceFormat) (width height : UInt32) :
    Attempt Status (List Format.Shape) :=
  if width = 0 ∨ height = 0 then .error (.refused .invalidResolution)
  else
    match f.shapes width.toNat height.toNat with
    | [] => .error (.refused .formatNotSupported)
    | shapes => do
      Attempt.room (f.planeBytes width.toNat height.toNat)
      return shapes

end SurfaceFormat

end VideoScaler
