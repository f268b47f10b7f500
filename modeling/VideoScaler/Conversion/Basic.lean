import VideoScaler.Conversion.Picture

/-! Converting the samples of a surface to another layout or size.

A region that keeps its layout and its size is copied, without loss. One that keeps only
its layout is scaled plane by plane, unless samples of the layout have no fixed meaning.
All else goes through a picture. The result is laid out by the accelerator.
-/

set_option autoImplicit false

namespace VideoScaler.Conversion

def covers (p : Plane) (d : PlaneLayout) (region : Region) : Bool :=
  d.position region.top + d.length region.height ≤ p.rows
    && d.position region.left * d.pixelBytes + d.rowBytes region.width ≤ p.rowBytes

def copyPlane (region : Region) (d : PlaneLayout) (shape : Format.Shape) (p : Plane) :
    Attempt Refusal Plane :=
  Attempt.ofOption do
    let left := d.position region.left * d.pixelBytes
    let rows ← Vector.ofFnM fun y : Fin (d.length region.height) => do
      let row ← p.row? (d.position region.top + y)
      return row.extract left (left + d.rowBytes region.width)
    return Plane.build shape fun y x =>
      match rows[y]? with
      | some row => row.getD x 0
      | none => 0

def readSamples? (region : Region) (d : PlaneLayout) (p : Plane) :
    Option (Raster d.channels (d.length region.width) (d.length region.height)) :=
  Vector.ofFnM fun y => do
    let row ← p.row? (d.position region.top + y)
    Vector.ofFnM fun x => Vector.ofFnM fun k =>
      sampleAt? d.wide row ((d.position region.left * d.channels + (x * d.channels + k))
        * d.sampleBytes)

theorem PlaneLayout.length_pos (d : PlaneLayout) {n : Nat} (h : 0 < n) : 0 < d.length n := by
  simp only [length, Format.half]
  split <;> omega

def rasterByte (d : PlaneLayout) {c w h : Nat} (r : Raster c w h) (y x : Nat) : UInt8 :=
  if d.wide then
    halfOf (toPair (r.sample y (x / 2 / d.channels) (x / 2 % d.channels))) (x % 2 = 1)
  else
    toByte (r.sample y (x / d.channels) (x % d.channels))

def scalePlane (interpolation : Interpolation) (region : Region) (width height : Nat)
    (d : PlaneLayout) (shape : Format.Shape) (p : Plane) : Attempt Refusal Plane :=
  Attempt.ofOption do
    let samples ← readSamples? region d p
    let scaled := samples.scale interpolation (d.length_pos region.width_pos)
      (d.length_pos region.height_pos) (d.length width) (d.length height)
    return Plane.build shape (rasterByte d scaled)

def planewise (convert : PlaneLayout → Format.Shape → Plane → Attempt Refusal Plane)
    (region : Region) : Nat → List PlaneLayout → List Format.Shape → List Plane →
      Attempt Refusal (List Plane)
  | i, d :: layouts, shape :: shapes, p :: planes => do
    -- The check along both axes comes first, so what follows finds all bytes that it reads.
    if !covers p d region then .error (.refused (.sourceTooSmall i))
    let converted ← convert d shape p
    return converted :: (← planewise convert region (i + 1) layouts shapes planes)
  | _, _, _, _ => .ok []

def throughPicture (parameters : Parameters) (planes : List Plane) (source : SurfaceFormat)
    (region : Region) (target : SurfaceFormat) (width height : Nat) (wpos : 0 < width)
    (hpos : 0 < height) : Attempt Refusal (List Plane) := do
  let picture ← Picture.read planes source region
  let picture := picture.scale parameters.interpolation width height wpos hpos
  (picture.toFamily parameters target.isRgb).write target

def convertRegion (parameters : Parameters) (planes : List Plane) (source : SurfaceFormat)
    (region : Region) (target : SurfaceFormat) (width height : Nat) (wpos : 0 < width)
    (hpos : 0 < height) : Attempt Refusal (List Plane) :=
  let sameSize := region.width = width ∧ region.height = height
  -- Rows of `yuy2` mix luma and color differences, which cannot be blended with each other.
  if source = target ∧ source ≠ .unknown ∧ (sameSize ∨ source ≠ .yuy2) then
    if planes.length < (layouts source).length then .error (.refused .missingPlane)
    else
      let convert :=
        if sameSize then copyPlane region
        else scalePlane parameters.interpolation region width height
      planewise convert region 0 (layouts source) (source.shapes width height) planes
  else
    throughPicture parameters planes source region target width height wpos hpos

/-- Convert the cropped part of a surface into planes of another surface. The size has to
be positive, as the size of every surface is. -/
def convert (parameters : Parameters) (planes : List Plane) (source : SurfaceFormat)
    (crop : Rect) (target : SurfaceFormat) (width height : Nat) :
    Attempt Refusal (List Plane) :=
  match Region.ofRect? crop with
  | none => .error (.refused .emptyRegion)
  | some region =>
    if h : 0 < width ∧ 0 < height then
      convertRegion parameters planes source region target width height h.1 h.2
    else
      .error (.refused (.unwritable target))

end VideoScaler.Conversion
