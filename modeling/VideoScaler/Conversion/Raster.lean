import VideoScaler.Number.Rounding

/-! Rasters of samples and how they are scaled.

Both axes are scaled one after the other. The pixel at position `i` of the result takes a
weighted sum of the pixels around the place where `i` falls in the source; positions past
an edge take the pixel at the edge. Sums start at zero and add one product at a time, from
the lowest position to the highest.
-/

set_option autoImplicit false

namespace VideoScaler.Conversion

open Number (Single.roundDown Single.integerPart)

inductive Interpolation where
  | bilinear | bicubic
  deriving DecidableEq, Repr

/-- The weights of consecutive pixels, and the position of the first of them. -/
structure Taps where
  start : Int
  weights : List Float32

/-- The cubic kernel that passes through its samples with continuous slope. -/
def cubic (x : Float32) : Float32 :=
  let a : Float32 := -0.5
  let x := x.abs
  if x < 1 then (a + 2) * x * x * x - (a + 3) * x * x + 1
  else if x < 2 then a * x * x * x - 5 * a * x * x + 8 * a * x - 4 * a
  else 0

namespace Taps

/-- The taps for position `i` when an axis of `source` pixels becomes one of `target`. -/
def ofPosition (interpolation : Interpolation) (source target i : Nat) : Taps :=
  let scale := (UInt64.ofNat source).toFloat32 / (UInt64.ofNat target).toFloat32
  let center := ((UInt64.ofNat i).toFloat32 + 0.5) * scale - 0.5
  let base := Single.roundDown center
  let t := center - base
  match interpolation with
  | .bilinear => ⟨Single.integerPart base, [1 - t, t]⟩
  | .bicubic =>
    ⟨Single.integerPart base - 1, [cubic (1 + t), cubic t, cubic (1 - t), cubic (2 - t)]⟩

def sum (sample : Int → Float32) : List Float32 → Int → Float32 → Float32
  | [], _, total => total
  | w :: weights, i, total => sum sample weights (i + 1) (total + w * sample i)

def blend (taps : Taps) (sample : Int → Float32) : Float32 :=
  sum sample taps.weights taps.start 0

end Taps

abbrev Raster (c w h : Nat) := Vector (Vector (Vector Float32 c) w) h

namespace Raster

variable {c w h : Nat}

def nearest {n : Nat} (pos : 0 < n) (i : Int) : Fin n :=
  ⟨min i.toNat (n - 1), by omega⟩

def scaleRows (interpolation : Interpolation) (pos : 0 < w) (width : Nat)
    (r : Raster c w h) : Raster c width h :=
  let taps := Vector.ofFn fun x : Fin width => Taps.ofPosition interpolation w width x
  r.map fun row =>
    taps.map fun t => Vector.ofFn fun k => t.blend fun i => (row[nearest pos i])[k]

def scaleColumns (interpolation : Interpolation) (pos : 0 < h) (height : Nat)
    (r : Raster c w h) : Raster c w height :=
  Vector.ofFn fun y : Fin height =>
    let t := Taps.ofPosition interpolation h height y
    Vector.ofFn fun x : Fin w => Vector.ofFn fun k : Fin c =>
      t.blend fun i => ((r[nearest pos i])[x])[k]

def scale (interpolation : Interpolation) (wpos : 0 < w) (hpos : 0 < h) (width height : Nat)
    (r : Raster c w h) : Raster c width height :=
  (r.scaleRows interpolation wpos width).scaleColumns interpolation hpos height

def sample (r : Raster c w h) (y x k : Nat) : Float32 :=
  if hy : y < h then
    if hx : x < w then
      if hk : k < c then ((r[y])[x])[k] else 0
    else 0
  else 0

end Raster

end VideoScaler.Conversion
