import VideoScaler.Conversion.Basic

/-! The arrays of samples that a conversion takes, and the conversion as far as there is room
for them.

Copying takes none. Scaling takes the samples of a region, then the rows at their new length,
then the result; they are numbers of 32 bits.
-/

set_option autoImplicit false

namespace VideoScaler.Conversion

def rasterBytes (channels width height : Nat) : Nat :=
  4 * (channels * (width * height))

def PlaneLayout.scaleArrays (d : PlaneLayout) (sourceWidth sourceHeight width height : Nat) :
    List Nat :=
  [rasterBytes d.channels (d.length sourceWidth) (d.length sourceHeight),
    rasterBytes d.channels (d.length width) (d.length sourceHeight),
    rasterBytes d.channels (d.length width) (d.length height)]

/-- A picture is like one plane with four samples a pixel. -/
def pictureArrays (sourceWidth sourceHeight width height : Nat) : List Nat :=
  if sourceWidth = width ∧ sourceHeight = height then [rasterBytes 4 width height]
  else PlaneLayout.scaleArrays ⟨4, false, false⟩ sourceWidth sourceHeight width height

/-- The arrays that a conversion of a region takes before it is refused, if it is. -/
def arrays (planes : List Plane) (source : SurfaceFormat) (region : Region)
    (target : SurfaceFormat) (width height : Nat) : List Nat :=
  let sameSize := region.width = width ∧ region.height = height
  if source = target ∧ source ≠ .unknown ∧ (sameSize ∨ source ≠ .yuy2) then
    if sameSize ∨ planes.length < (layouts source).length then []
    else
      -- Planes are scaled one after the other, up to the first that is too small.
      (((layouts source).zip planes).takeWhile fun slot => covers slot.2 slot.1 region).flatMap
        fun slot => slot.1.scaleArrays region.width region.height width height
  else if Picture.admits planes source region then
    pictureArrays region.width region.height width height
  else
    []

/-- Convert the cropped part of a surface, if there can be arrays for the samples. -/
def convertWithin (parameters : Parameters) (planes : List Plane) (source : SurfaceFormat)
    (crop : Rect) (target : SurfaceFormat) (width height : Nat) :
    Attempt Refusal (List Plane) := do
  match Region.ofRect? crop with
  | some region => Attempt.room (arrays planes source region target width height)
  | none => pure ()
  convert parameters planes source crop target width height

end VideoScaler.Conversion
