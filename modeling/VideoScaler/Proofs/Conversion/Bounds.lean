import VideoScaler.Proofs.Conversion.Workspace

/-! When a conversion stays inside of the planes that it reads.

A region inside of the surface is always converted, into planes of the wanted size. For other
regions the two ways of converting differ. Plane by plane, every plane is checked along both
axes; on the way through a picture only the rows are, so a region that ends right of all
pixels is read where there are none.
-/

set_option autoImplicit false

namespace VideoScaler.Conversion

variable {parameters : Parameters} {source target : SurfaceFormat} {planes : List Plane}
  {w h width height : Nat} {region : Region} {crop : Rect}

theorem Picture.scale_size (interpolation : Interpolation) (wpos : 0 < width) (hpos : 0 < height)
    (p : Picture) :
    (p.scale interpolation width height wpos hpos).width = width ∧
      (p.scale interpolation width height wpos hpos).height = height := by
  unfold Picture.scale
  split
  case isTrue same => exact ⟨same.1.symm, same.2.symm⟩
  case isFalse => exact ⟨rfl, rfl⟩

theorem Picture.toFamily_size (parameters : Parameters) (rgb : Bool) (p : Picture) :
    (p.toFamily parameters rgb).width = p.width ∧
      (p.toFamily parameters rgb).height = p.height := by
  unfold Picture.toFamily
  split <;> exact ⟨rfl, rfl⟩

def Picture.written (p : Picture) (f : SurfaceFormat) : List Plane :=
  (f.shapes p.width p.height).mapIdx fun i shape => Plane.build shape (p.byte f i)

theorem Picture.written_laid (p : Picture) (f : SurfaceFormat) :
    f.Laid p.width p.height (p.written f) := by
  refine List.forall₂_iff_get.2 ⟨by simp [written], fun i hi hj => ?_⟩
  simpa [written] using Plane.fills_build _ _

theorem Picture.write_eq (p : Picture) (known : target ≠ .unknown) :
    p.write target = .ok (p.written target) := by
  obtain ⟨rowBytes, others, same⟩ := shapes_eq_cons known p.width p.height
  simp only [write, written, same]

-- Reading is the only step that can fail: every raster can be scaled, and every picture can be
-- written in a layout that is known.
theorem throughPicture_eq (parameters : Parameters) (planes : List Plane)
    (source : SurfaceFormat) (region : Region) (wpos : 0 < width) (hpos : 0 < height)
    (known : target ≠ .unknown) :
    (∃ failure, Picture.read planes source region = .error failure ∧
      throughPicture parameters planes source region target width height wpos hpos
        = .error failure) ∨
    (∃ picture out, Picture.read planes source region = .ok picture ∧
      throughPicture parameters planes source region target width height wpos hpos = .ok out ∧
      target.Laid width height out) := by
  unfold throughPicture
  cases read : Picture.read planes source region with
  | error failure => exact .inl ⟨failure, rfl, rfl⟩
  | ok picture =>
    let scaled := picture.scale parameters.interpolation width height wpos hpos
    have written := (scaled.toFamily parameters target.isRgb).write_eq known
    have laid := (scaled.toFamily parameters target.isRgb).written_laid target
    refine .inr ⟨picture, _, rfl, written, ?_⟩
    have size := Picture.scale_size parameters.interpolation wpos hpos picture
    rwa [(scaled.toFamily_size parameters target.isRgb).1,
      (scaled.toFamily_size parameters target.isRgb).2, size.1, size.2] at laid

/-- Does a region end right of all pixels of a surface that has its rows? -/
structure Region.Overhangs (f : SurfaceFormat) (width height : Nat) (region : Region) : Prop where
  rows : region.top + region.height ≤ height
  columns : f.columns width < region.left + region.width

theorem read_outOfRange_iff (laid : source.Laid w h planes) (known : source ≠ .unknown) :
    Picture.read planes source region = .error (.broken .outOfRange) ↔
      region.Overhangs source w h := by
  rw [read_laid laid known region]
  split
  case isTrue below =>
    constructor
    · intro refused
      cases refused
    · intro overhangs
      exact absurd overhangs.rows (Nat.not_le.2 below)
  case isFalse above =>
    have rows : region.top + region.height ≤ h := Nat.not_lt.1 above
    have readable := isSome_pixels? laid known rows
    cases pixels : pixels? planes source region with
    | none =>
      rw [pixels, Option.isSome_none] at readable
      have beyond : source.columns w < region.left + region.width :=
        Nat.not_le.1 fun fits => Bool.false_ne_true (readable.2 fits)
      exact ⟨fun _ => ⟨rows, beyond⟩, fun _ => rfl⟩
    | some _ =>
      rw [pixels] at readable
      constructor
      · intro outside
        cases outside
      · intro overhangs
        exact absurd overhangs.columns (Nat.not_lt.2 (readable.1 rfl))

/-- Does a conversion go plane by plane? The samples of `yuy2` are moved only as they are. -/
def KeepsLayout (source target : SurfaceFormat) (region : Region) (width height : Nat) : Prop :=
  source = target ∧ (source ≠ .yuy2 ∨ (region.width = width ∧ region.height = height))

theorem laid_of_planewise {out : List Plane} (count : planes.length = (layouts source).length)
    (fills : List.Forall₂ (fun slot q => Plane.Fills slot.2.1 q)
      ((layouts source).zip ((source.shapes width height).zip planes)) out) :
    source.Laid width height out := by
  have shapes : ((layouts source).zip ((source.shapes width height).zip planes)).map
      (fun slot => slot.2.1) = source.shapes width height := by
    have sizes := length_layouts source width height
    rw [← Function.comp_def (f := Prod.fst) (g := Prod.snd), ← List.map_map, List.map_snd_zip,
      List.map_fst_zip]
    · omega
    · simp only [List.length_zip]
      omega
  rw [SurfaceFormat.Laid, ← shapes]
  exact List.forall₂_map_left_iff.2 fills

def convertPlane (interpolation : Interpolation) (region : Region) (width height : Nat) :
    PlaneLayout → Format.Shape → Plane → Attempt Refusal Plane :=
  if region.width = width ∧ region.height = height then copyPlane region
  else scalePlane interpolation region width height

theorem convertPlane_ok (interpolation : Interpolation) (region : Region) (width height : Nat)
    (d : PlaneLayout) (shape : Format.Shape) (p : Plane) (whole : p.Whole)
    (covered : covers p d region = true) :
    ∃ q, convertPlane interpolation region width height d shape p = .ok q ∧
      Plane.Fills shape q := by
  unfold convertPlane
  split
  · exact ⟨_, copyPlane_eq shape whole covered, Plane.fills_build _ _⟩
  · obtain ⟨byte, scaled⟩ := scalePlane_eq interpolation width height shape whole covered
    exact ⟨_, scaled, Plane.fills_build _ _⟩

theorem convertRegion_keeping (laid : source.Laid w h planes) (known : source ≠ .unknown)
    (wpos : 0 < width) (hpos : 0 < height)
    (keeps : KeepsLayout source target region width height) :
    convertRegion parameters planes source region target width height wpos hpos =
      planewise (convertPlane parameters.interpolation region width height) region 0
        (layouts source) (source.shapes width height) planes := by
  have count : ¬planes.length < (layouts source).length := by
    rw [laid.length_eq, length_layouts]
    exact Nat.lt_irrefl _
  have planar : source = target ∧ source ≠ .unknown ∧
      ((region.width = width ∧ region.height = height) ∨ source ≠ .yuy2) :=
    ⟨keeps.1, known, keeps.2.symm⟩
  simp only [convertRegion, convertPlane, if_pos planar, if_neg count]

theorem convertRegion_not_keeping (wpos : 0 < width) (hpos : 0 < height)
    (changes : ¬KeepsLayout source target region width height) :
    convertRegion parameters planes source region target width height wpos hpos =
      throughPicture parameters planes source region target width height wpos hpos := by
  unfold convertRegion
  exact if_neg fun keeps => changes ⟨keeps.1, keeps.2.2.symm⟩

theorem le_columns (f : SurfaceFormat) (width : Nat) : width ≤ f.columns width := by
  cases f <;> simp only [SurfaceFormat.columns, Format.half, Nat.le_refl]
  omega

theorem convertRegion_ok (parameters : Parameters) (laid : source.Laid w h planes)
    (known : source ≠ .unknown) (targetKnown : target ≠ .unknown) (within : region.Within w h)
    (wpos : 0 < width) (hpos : 0 < height) :
    ∃ out, convertRegion parameters planes source region target width height wpos hpos = .ok out ∧
      target.Laid width height out := by
  by_cases keeps : KeepsLayout source target region width height
  · rw [convertRegion_keeping laid known wpos hpos keeps, ← keeps.1]
    have count : planes.length = (layouts source).length := by
      rw [laid.length_eq, length_layouts]
    obtain ⟨out, converted, fills⟩ :=
      planewise_ok (convertPlane_ok parameters.interpolation region width height) laid.whole
        (source.shapes width height) (covered_of_within laid within) 0
    exact ⟨out, converted, laid_of_planewise count fills⟩
  · rw [convertRegion_not_keeping wpos hpos keeps]
    obtain ⟨pixels, found⟩ := Option.isSome_iff_exists.1 ((isSome_pixels? laid known within.rows).2
      (Nat.le_trans within.columns (le_columns source w)))
    have inside : ¬h < region.top + region.height := Nat.not_lt.2 within.rows
    have read := read_laid laid known region
    rw [found, if_neg inside] at read
    obtain ⟨failure, failed, -⟩ | ⟨_, out, -, converted, outLaid⟩ :=
      throughPicture_eq parameters planes source region wpos hpos targetKnown
    · rw [read] at failed
      cases failed
    · exact ⟨out, converted, outLaid⟩

theorem convertRegion_outOfRange_iff (laid : source.Laid w h planes) (known : source ≠ .unknown)
    (targetKnown : target ≠ .unknown) (wpos : 0 < width) (hpos : 0 < height) :
    convertRegion parameters planes source region target width height wpos hpos
        = .error (.broken .outOfRange) ↔
      region.Overhangs source w h ∧
        ¬KeepsLayout source target region width height := by
  by_cases keeps : KeepsLayout source target region width height
  · -- Every plane is checked along both axes before any byte of it is read.
    rw [convertRegion_keeping laid known wpos hpos keeps]
    simp only [keeps, not_true_eq_false, and_false, iff_false]
    exact planewise_ne_outOfRange (convertPlane_ok parameters.interpolation region width height)
      laid.whole 0
  · -- Only the rows are checked before the pixels are read.
    rw [convertRegion_not_keeping wpos hpos keeps]
    simp only [keeps, not_false_eq_true, and_true]
    rw [← read_outOfRange_iff laid known]
    obtain ⟨failure, read, converted⟩ | ⟨_, _, read, converted, -⟩ :=
      throughPicture_eq parameters planes source region wpos hpos targetKnown
    · rw [read, converted, Except.error.injEq, Except.error.injEq]
    · simp only [read, converted, reduceCtorEq]

theorem convert_eq (parameters : Parameters) (planes : List Plane) (source target : SurfaceFormat)
    (found : Region.ofRect? crop = some region) (wpos : 0 < width) (hpos : 0 < height) :
    convert parameters planes source crop target width height =
      convertRegion parameters planes source region target width height wpos hpos := by
  simp only [convert, found, dif_pos (And.intro wpos hpos)]

/-- A conversion reaches outside of the planes of a surface only on the way through a picture,
and there exactly when the crop rectangle has the rows of the surface, but not its columns. -/
theorem convert_outOfRange_iff (parameters : Parameters) (crop : Rect)
    (laid : source.Laid w h planes) (known : source ≠ .unknown) (targetKnown : target ≠ .unknown)
    (wpos : 0 < width) (hpos : 0 < height) :
    convert parameters planes source crop target width height = .error (.broken .outOfRange) ↔
      ∃ region, Region.ofRect? crop = some region ∧ region.Overhangs source w h ∧
        ¬KeepsLayout source target region width height := by
  cases found : Region.ofRect? crop with
  | none => simp [convert, found]
  | some region =>
    rw [convert_eq parameters planes source target found wpos hpos]
    simp only [Option.some.injEq, exists_eq_left']
    exact convertRegion_outOfRange_iff laid known targetKnown wpos hpos

theorem convert_whole_nv12 :
    SurfaceFormat.nv12.Laid 4 2 [Plane.zero ⟨4, 2⟩, Plane.zero ⟨4, 1⟩] ∧
      convert {} [Plane.zero ⟨4, 2⟩, Plane.zero ⟨4, 1⟩] .nv12 ⟨0, 0, 4, 2⟩ .bgra 4 2
        ≠ .error (.broken .outOfRange) := by
  have laid : SurfaceFormat.nv12.Laid 4 2 [Plane.zero ⟨4, 2⟩, Plane.zero ⟨4, 1⟩] :=
    SurfaceFormat.Laid.of_allocation (f := .nv12) (w := 4) (h := 2) rfl
  refine ⟨laid, fun outside => ?_⟩
  obtain ⟨region, found, overhangs, -⟩ :=
    (convert_outOfRange_iff {} ⟨0, 0, 4, 2⟩ laid (by decide) (by decide) (by decide)
      (by decide)).1 outside
  cases found
  exact absurd overhangs.columns (by decide)

/-- One column more than the surface has is enough. -/
theorem convert_right_of_nv12 :
    ∃ shapes, SurfaceFormat.nv12.allocation 4 2 = .ok shapes ∧
      convert {} (shapes.map Plane.zero) .nv12 ⟨0, 0, 5, 2⟩ .bgra 4 2
        = .error (.broken .outOfRange) := by
  refine ⟨_, rfl, ?_⟩
  have found : Region.ofRect? ⟨0, 0, 5, 2⟩ = some ⟨0, 0, 5, 2, by decide, by decide⟩ := rfl
  rw [convert_eq _ _ _ _ found (by decide) (by decide)]
  have laid := SurfaceFormat.Laid.of_allocation (f := .nv12) (w := 4) (h := 2) rfl
  refine (convertRegion_outOfRange_iff laid (by decide) (by decide) _ _).2 ⟨⟨?_, ?_⟩, ?_⟩
  · decide
  · decide
  · rintro ⟨same, -⟩
    cases same

end VideoScaler.Conversion
