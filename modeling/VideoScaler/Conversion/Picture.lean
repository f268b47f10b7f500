import VideoScaler.Conversion.Color
import VideoScaler.Conversion.Layout
import VideoScaler.Conversion.Raster
import VideoScaler.Conversion.Sample
import VideoScaler.Error

/-! Pictures at full resolution, between which all layouts convert.

A pixel has four samples on the scale of eight bits: luma and two color differences, or red,
green and blue, and always opacity. Where a layout has one color sample for several pixels,
all of them take it; to write one, the samples of its pixels are averaged.
-/

set_option autoImplicit false

namespace VideoScaler.Conversion

structure Parameters where
  interpolation : Interpolation := .bilinear
  matrix : ColorMatrix := .bt709
  fullRange : Bool := false
  deriving DecidableEq, Repr

abbrev Pixel := Vector Float32 4

/-- The numbers of the samples of a pixel: luma and the two color differences, or red, green
and blue, and then opacity. -/
abbrev Channel := Fin 4

namespace Channel

def first : Channel := ⟨0, by decide⟩

def second : Channel := ⟨1, by decide⟩

def third : Channel := ⟨2, by decide⟩

def opacity : Channel := ⟨3, by decide⟩

end Channel

/-- Two bytes that hold ten bits at the top, on the scale of eight bits. -/
def tenBitsAt? (row : Bytes) (i : Nat) : Option Float32 :=
  (sampleAt? true row i).map fun v => v / 256

def readPixel? (format : SurfaceFormat) (rows : List Bytes) (x : Nat) : Option Pixel :=
  match format, rows with
  | .nv12, [luma, chroma] => do
    return #v[← narrowAt? luma x, ← narrowAt? chroma (x / 2 * 2),
      ← narrowAt? chroma (x / 2 * 2 + 1), 255]
  | .p010, [luma, chroma] => do
    return #v[← tenBitsAt? luma (x * 2), ← tenBitsAt? chroma (x / 2 * 2 * 2),
      ← tenBitsAt? chroma ((x / 2 * 2 + 1) * 2), 255]
  | .yuv420p, [luma, u, v] => do
    return #v[← narrowAt? luma x, ← narrowAt? u (x / 2), ← narrowAt? v (x / 2), 255]
  | .yv12, [luma, v, u] => do
    return #v[← narrowAt? luma x, ← narrowAt? u (x / 2), ← narrowAt? v (x / 2), 255]
  | .gray8, [luma] => do
    return #v[← narrowAt? luma x, 128, 128, 255]
  | .yuy2, [row] => do
    return #v[← narrowAt? row (x / 2 * 4 + x % 2 * 2), ← narrowAt? row (x / 2 * 4 + 1),
      ← narrowAt? row (x / 2 * 4 + 3), 255]
  | .bgra, [row] => do
    return #v[← narrowAt? row (x * 4 + 2), ← narrowAt? row (x * 4 + 1),
      ← narrowAt? row (x * 4), ← narrowAt? row (x * 4 + 3)]
  | .rgba, [row] => do
    return #v[← narrowAt? row (x * 4), ← narrowAt? row (x * 4 + 1),
      ← narrowAt? row (x * 4 + 2), ← narrowAt? row (x * 4 + 3)]
  | .argb, [row] => do
    return #v[← narrowAt? row (x * 4 + 1), ← narrowAt? row (x * 4 + 2),
      ← narrowAt? row (x * 4 + 3), ← narrowAt? row (x * 4)]
  | _, _ => none

/-- The rows that hold row `y` of a picture: that row of the first plane, and half as far
down in the others. -/
def rowsAt? (planes : List Plane) (y : Nat) : Option (List Bytes) :=
  match planes with
  | [] => some []
  | first :: others => do
    return (← first.row? y) :: (← others.mapM fun p => p.row? (y / 2))

structure Picture where
  width : Nat
  height : Nat
  width_pos : 0 < width
  height_pos : 0 < height
  rgb : Bool
  pixels : Raster 4 width height

namespace Picture

def planeCount (format : SurfaceFormat) : Nat :=
  (layouts format).length

/-- Are there the planes and the rows that a picture is read from? -/
def admits (planes : List Plane) (format : SurfaceFormat) (region : Region) : Bool :=
  0 < planeCount format && planeCount format ≤ planes.length
    && planes.head?.any fun first => region.top + region.height ≤ first.rows

def read (planes : List Plane) (format : SurfaceFormat) (region : Region) :
    Attempt Refusal Picture :=
  match planes.take (planeCount format) with
  | [] => .error (.refused (.unreadable format))
  | first :: others =>
    if (first :: others).length < planeCount format then
      .error (.refused (.unreadable format))
    -- Nothing is said about columns: a row that ends early is noticed when it is read.
    else if first.rows < region.top + region.height then
      .error (.refused .regionExceeds)
    else
      Attempt.ofOption do
        let pixels ← Vector.ofFnM fun y : Fin region.height => do
          let rows ← rowsAt? (first :: others) (region.top + y)
          Vector.ofFnM fun x : Fin region.width => readPixel? format rows (region.left + x)
        return ⟨region.width, region.height, region.width_pos, region.height_pos, format.isRgb,
          pixels⟩

def scale (interpolation : Interpolation) (width height : Nat) (wpos : 0 < width)
    (hpos : 0 < height) (p : Picture) : Picture :=
  if width = p.width ∧ height = p.height then p
  else
    ⟨width, height, wpos, hpos, p.rgb,
      p.pixels.scale interpolation p.width_pos p.height_pos width height⟩

/-- Bring the samples to red, green and blue, or to luma and color differences. -/
def toFamily (parameters : Parameters) (rgb : Bool) (p : Picture) : Picture :=
  if p.rgb = rgb then p
  else
    { p with
      rgb
      pixels := p.pixels.map fun row => row.map fun pixel =>
        let (a, b, c) :=
          if rgb then
            parameters.matrix.toRgb parameters.fullRange (pixel.get Channel.first)
              (pixel.get Channel.second) (pixel.get Channel.third)
          else
            parameters.matrix.toYuv parameters.fullRange (pixel.get Channel.first)
              (pixel.get Channel.second) (pixel.get Channel.third)
        #v[a, b, c, pixel.get Channel.opacity] }

def sample (p : Picture) (x y : Nat) (k : Channel) : Float32 :=
  ((p.pixels.get (Raster.nearest p.height_pos y)).get (Raster.nearest p.width_pos x)).get k

def average (p : Picture) (cx cy : Nat) (k : Channel) : Float32 :=
  let x := cx * 2
  let y := cy * 2
  (p.sample x y k + p.sample (x + 1) y k + p.sample x (y + 1) k + p.sample (x + 1) (y + 1) k) / 4

def pairAverage (p : Picture) (cx y : Nat) (k : Channel) : Float32 :=
  (p.sample (cx * 2) y k + p.sample (cx * 2 + 1) y k) / 2

/-- The sample that byte `i` of a pixel in a layout of red, green and blue holds. -/
def byteChannel (format : SurfaceFormat) (i : Nat) : Channel :=
  match format, i with
  | .bgra, 2 | .rgba, 0 | .argb, 1 => Channel.first
  | .bgra, 1 | .rgba, 1 | .argb, 2 => Channel.second
  | .bgra, 0 | .rgba, 2 | .argb, 3 => Channel.third
  | _, _ => Channel.opacity

def byte (p : Picture) (format : SurfaceFormat) (plane y x : Nat) : UInt8 :=
  match format, plane with
  | .nv12, 0 | .yuv420p, 0 | .yv12, 0 | .gray8, _ => toByte (p.sample x y Channel.first)
  | .nv12, _ => toByte (p.average (x / 2) y (if x % 2 = 0 then Channel.second else Channel.third))
  | .p010, 0 => halfOf (toTenBits (p.sample (x / 2) y Channel.first)) (x % 2 = 1)
  | .p010, _ =>
    let k := if x / 2 % 2 = 0 then Channel.second else Channel.third
    halfOf (toTenBits (p.average (x / 4) y k)) (x % 2 = 1)
  | .yuv420p, plane => toByte (p.average x y (if plane = 1 then Channel.second else Channel.third))
  | .yv12, plane => toByte (p.average x y (if plane = 1 then Channel.third else Channel.second))
  | .yuy2, _ =>
    match x % 4 with
    | 0 => toByte (p.sample (x / 4 * 2) y Channel.first)
    | 1 => toByte (p.pairAverage (x / 4) y Channel.second)
    | 2 => toByte (p.sample (x / 4 * 2 + 1) y Channel.first)
    | _ => toByte (p.pairAverage (x / 4) y Channel.third)
  | .bgra, _ | .rgba, _ | .argb, _ => toByte (p.sample (x / 4) y (byteChannel format (x % 4)))
  | .unknown, _ => 0

def write (p : Picture) (format : SurfaceFormat) : Attempt Refusal (List Plane) :=
  match format.shapes p.width p.height with
  | [] => .error (.refused (.unwritable format))
  | shapes => .ok (shapes.mapIdx fun i shape => Plane.build shape (p.byte format i))

end Picture

end VideoScaler.Conversion
