import VideoScaler.Surface.Basic

/-! How samples lie in the planes of a layout, and the part of a surface to convert. -/

set_option autoImplicit false

namespace VideoScaler.Conversion

/-- The samples of one plane: how many a pixel has, whether each takes two bytes, and
whether the plane has half the pixels along both axes. -/
structure PlaneLayout where
  channels : Nat
  wide : Bool
  halved : Bool
  deriving DecidableEq, Repr

namespace PlaneLayout

def sampleBytes (d : PlaneLayout) : Nat :=
  if d.wide then 2 else 1

def length (d : PlaneLayout) (n : Nat) : Nat :=
  if d.halved then Format.half n else n

def position (d : PlaneLayout) (n : Nat) : Nat :=
  if d.halved then n / 2 else n

def pixelBytes (d : PlaneLayout) : Nat :=
  d.channels * d.sampleBytes

def rowBytes (d : PlaneLayout) (width : Nat) : Nat :=
  d.length width * d.pixelBytes

end PlaneLayout

/-- The planes of a layout. Those of `yuy2` can be copied sample by sample, but a sample
has no fixed meaning, so they cannot be scaled on their own. -/
def layouts : SurfaceFormat → List PlaneLayout
  | .nv12 => [⟨1, false, false⟩, ⟨2, false, true⟩]
  | .p010 => [⟨1, true, false⟩, ⟨2, true, true⟩]
  | .yuv420p | .yv12 => [⟨1, false, false⟩, ⟨1, false, true⟩, ⟨1, false, true⟩]
  | .gray8 => [⟨1, false, false⟩]
  | .yuy2 => [⟨2, false, false⟩]
  | .bgra | .argb | .rgba => [⟨4, false, false⟩]
  | .unknown => []

theorem length_layouts (f : SurfaceFormat) (width height : Nat) :
    (layouts f).length = (f.shapes width height).length := by
  cases f <;> rfl

structure Region where
  left : Nat
  top : Nat
  width : Nat
  height : Nat
  width_pos : 0 < width
  height_pos : 0 < height

namespace Region

def ofRect? (r : Rect) : Option Region :=
  if h : 0 < r.width.toInt ∧ 0 < r.height.toInt then
    some ⟨r.x.toInt.toNat, r.y.toInt.toNat, r.width.toInt.toNat, r.height.toInt.toNat,
      by omega, by omega⟩
  else
    none

end Region

inductive Refusal where
  | emptyRegion
  | missingPlane
  | sourceTooSmall (plane : Nat)
  | regionExceeds
  | unreadable (format : SurfaceFormat)
  | unwritable (format : SurfaceFormat)
  deriving DecidableEq, Repr

end VideoScaler.Conversion
