import Mathlib.Data.List.TakeWhile
import VideoScaler.Conversion.Workspace
import VideoScaler.Proofs.Conversion.Planewise

/-! Which sizes leave room for the samples of a conversion.

Inside of a surface nothing is refused, so the arrays depend on the layouts and the sizes only.
There are none when layout and size stay.
-/

set_option autoImplicit false

namespace VideoScaler.Conversion

variable {parameters : Parameters} {source target : SurfaceFormat} {planes : List Plane}
  {w h width height : Nat} {region : Region} {crop : Rect}

/-- The arrays of a conversion in which nothing is refused. -/
def workspace (source target : SurfaceFormat) (w h width height : Nat) : List Nat :=
  if source = target ∧ (source ≠ .yuy2 ∨ (w = width ∧ h = height)) then
    if w = width ∧ h = height then []
    else (layouts source).flatMap fun d => d.scaleArrays w h width height
  else
    pictureArrays w h width height

/-- Can there be arrays for the samples when a region of one size is converted to another? -/
def HasRoom (source target : SurfaceFormat) (w h width height : Nat) : Prop :=
  Bytes.Fit (workspace source target w h width height)

instance (source target : SurfaceFormat) (w h width height : Nat) :
    Decidable (HasRoom source target w h width height) :=
  inferInstanceAs (Decidable (Bytes.Fit _))

theorem hasRoom_copy (f : SurfaceFormat) (w h : Nat) : HasRoom f f w h w h := by
  have none : workspace f f w h w h = [] := by
    simp [workspace]
  rw [HasRoom, none]
  exact nofun

theorem admits_of_laid (laid : source.Laid w h planes) (known : source ≠ .unknown)
    (rows : region.top + region.height ≤ h) : Picture.admits planes source region = true := by
  have count : Picture.planeCount source = planes.length := by
    rw [laid.length_eq, Picture.planeCount, length_layouts]
  obtain ⟨rowBytes, others, same⟩ := shapes_eq_cons known w h
  simp only [SurfaceFormat.Laid, same, List.forall₂_cons_left_iff] at laid
  obtain ⟨first, rest, fills, -, rfl⟩ := laid
  simpa [Picture.admits, count, fills.rows_eq] using rows

theorem arrays_of_within (laid : source.Laid w h planes) (known : source ≠ .unknown)
    (within : region.Within w h) :
    arrays planes source region target width height
      = workspace source target region.width region.height width height := by
  have count : (layouts source).length = planes.length := by
    rw [laid.length_eq, length_layouts]
  unfold arrays workspace
  simp only
  by_cases keeps : source = target ∧
      (source ≠ .yuy2 ∨ (region.width = width ∧ region.height = height))
  · rw [if_pos ⟨keeps.1, known, keeps.2.symm⟩, if_pos keeps]
    by_cases same : region.width = width ∧ region.height = height
    · rw [if_pos (.inl same), if_pos same]
    · have all : ((layouts source).zip planes).takeWhile
          (fun slot => covers slot.2 slot.1 region) = (layouts source).zip planes :=
        List.takeWhile_eq_self_iff.2 (covered_of_within laid within)
      rw [if_neg (not_or.2 ⟨same, Nat.not_lt.2 count.le⟩), if_neg same, all,
        ← List.flatMap_map (f := Prod.fst) (g := fun d : PlaneLayout =>
          d.scaleArrays region.width region.height width height),
        List.map_fst_zip count.le]
  · rw [if_neg fun planar => keeps ⟨planar.1, planar.2.2.symm⟩, if_neg keeps,
      admits_of_laid laid known within.rows, if_pos rfl]

/-- A conversion that nothing refuses comes to its end exactly when there is room for the
samples. -/
theorem convertWithin_of_within (parameters : Parameters) (laid : source.Laid w h planes)
    (known : source ≠ .unknown) (found : Region.ofRect? crop = some region)
    (within : region.Within w h) :
    convertWithin parameters planes source crop target width height =
      if HasRoom source target region.width region.height width height then
        convert parameters planes source crop target width height
      else .error (.broken .tooLarge) := by
  unfold convertWithin
  rw [found]
  simp only [arrays_of_within laid known within]
  split
  case isTrue room => rw [Attempt.room_of_fit room]; rfl
  case isFalse large => rw [Attempt.room_of_not_fit large]; rfl

end VideoScaler.Conversion
