import Mathlib.Data.Fin.SuccPred
import Mathlib.Tactic.SplitIfs
import VideoScaler.Conversion.Basic
import VideoScaler.Proofs.Surface.Rows

/-! Which pixels can be read from the planes of a surface.

The rows of a surface have all samples of a pixel or none of them, in all layouts. So the
pixels of a region are there exactly when the region ends inside of the surface along both
axes.
-/

set_option autoImplicit false

namespace VideoScaler

/-- How many pixels the rows of a surface have; those of `yuy2` hold pairs of pixels. -/
def SurfaceFormat.columns (f : SurfaceFormat) (width : Nat) : Nat :=
  match f with
  | yuy2 => 2 * Format.half width
  | _ => width

theorem Format.div_two_lt_half {i length : Nat} (hi : i < length) : i / 2 < half length := by
  simp only [half]
  omega

namespace Conversion

section
variable {α : Type} {n : Nat}

theorem ofFnM_eq_some {f : Fin n → Option α} {g : Fin n → α} (h : ∀ i, f i = some (g i)) :
    Vector.ofFnM f = some (Vector.ofFn g) := by
  have same : f = fun i => pure (g i) := funext h
  rw [same]
  exact Vector.ofFnM_pure

theorem ofFnM_eq_none {f : Fin n → Option α} (i : Fin n) (h : f i = none) :
    Vector.ofFnM f = none := by
  induction n with
  | zero => exact i.elim0
  | succ n ih =>
    rw [Vector.ofFnM_succ]
    rcases i.eq_castSucc_or_eq_last with ⟨j, rfl⟩ | rfl
    · have earlier : Vector.ofFnM (fun i => f i.castSucc) = none := ih j h
      simp [earlier]
    · cases Vector.ofFnM fun i => f i.castSucc <;> simp [h]

theorem isSome_ofFnM {f : Fin n → Option α} :
    (Vector.ofFnM f).isSome = true ↔ ∀ i, (f i).isSome = true := by
  constructor
  · intro some i
    cases missing : f i with
    | none => simp [ofFnM_eq_none i missing] at some
    | some a => rfl
  · intro all
    rw [ofFnM_eq_some fun i => (Option.some_get (all i)).symm]
    rfl

end

theorem narrowAt?_rowOf (p : Plane) (y i : Nat) :
    narrowAt? (p.rowOf y) i =
      if i < p.rowBytes then some (p.byteAt y i).toFloat32 else none := by
  simp only [narrowAt?, Plane.getElem?_rowOf]
  split <;> rfl

theorem pairAt?_rowOf (p : Plane) (y i : Nat) :
    pairAt? (p.rowOf y) i =
      if i + 1 < p.rowBytes then some (Number.ofTwoBytes (p.byteAt y i) (p.byteAt y (i + 1)))
      else none := by
  simp only [pairAt?, Plane.getElem?_rowOf]
  by_cases room : i + 1 < p.rowBytes
  · simp [room, Nat.lt_of_succ_lt room]
  · split <;> simp_all

theorem tenBitsAt?_rowOf (p : Plane) (y i : Nat) :
    tenBitsAt? (p.rowOf y) i =
      if i + 1 < p.rowBytes then
        some ((Number.ofTwoBytes (p.byteAt y i) (p.byteAt y (i + 1))).toFloat32 / 256)
      else none := by
  simp only [tenBitsAt?, sampleAt?, if_true, pairAt?_rowOf]
  split <;> rfl

theorem isSome_sampleAt?_rowOf (wide : Bool) (p : Plane) (y i : Nat) :
    (sampleAt? wide (p.rowOf y) i).isSome = true ↔
      i + (if wide then 1 else 0) < p.rowBytes := by
  cases wide
  · simp only [sampleAt?, narrowAt?_rowOf]
    split_ifs <;> simp_all
  · simp only [sampleAt?, pairAt?_rowOf]
    split_ifs <;> simp_all

variable {f : SurfaceFormat} {width height : Nat} {planes : List Plane}

def rowsOf (f : SurfaceFormat) (planes : List Plane) (y : Nat) : List Bytes :=
  List.zipWith (fun d p => p.rowOf (d.position y)) (layouts f) planes

theorem rowsAt?_eq (laid : f.Laid width height planes) (known : f ≠ .unknown) {y : Nat}
    (hy : y < height) : rowsAt? planes y = some (rowsOf f planes y) := by
  have half := Format.div_two_lt_half hy
  simp only [SurfaceFormat.Laid] at laid
  -- The cases differ in how many planes there are.
  cases f with
  | unknown => exact absurd rfl known
  | nv12 | p010 =>
    simp only [SurfaceFormat.shapes, List.forall₂_cons_left_iff, List.forall₂_nil_left_iff] at laid
    obtain ⟨luma, _, fl, ⟨chroma, _, fc, rfl, rfl⟩, rfl⟩ := laid
    simp [rowsAt?, rowsOf, layouts, PlaneLayout.position, fl.row? hy, fc.row? half]
  | yuv420p | yv12 =>
    simp only [SurfaceFormat.shapes, List.forall₂_cons_left_iff, List.forall₂_nil_left_iff] at laid
    obtain ⟨luma, _, fl, ⟨u, _, fu, ⟨v, _, fv, rfl, rfl⟩, rfl⟩, rfl⟩ := laid
    simp [rowsAt?, rowsOf, layouts, PlaneLayout.position, fl.row? hy, fu.row? half, fv.row? half]
  | gray8 | yuy2 | bgra | argb | rgba =>
    simp only [SurfaceFormat.shapes, List.forall₂_cons_left_iff, List.forall₂_nil_left_iff] at laid
    obtain ⟨plane, _, fills, rfl, rfl⟩ := laid
    simp [rowsAt?, rowsOf, layouts, PlaneLayout.position, fills.row? hy]

theorem isSome_readPixel? (laid : f.Laid width height planes) (known : f ≠ .unknown) (y x : Nat) :
    (readPixel? f (rowsOf f planes y) x).isSome = true ↔ x < f.columns width := by
  simp only [SurfaceFormat.Laid] at laid
  -- The cases differ in how wide a sample is. A row of color samples never ends before the row of
  -- luma does, as half a width is rounded up.
  cases f with
  | unknown => exact absurd rfl known
  | nv12 | p010 =>
    simp only [SurfaceFormat.shapes, List.forall₂_cons_left_iff, List.forall₂_nil_left_iff] at laid
    obtain ⟨luma, _, fl, ⟨chroma, _, fc, rfl, rfl⟩, rfl⟩ := laid
    simp only [rowsOf, layouts, List.zipWith_cons_cons, List.zipWith_nil_right, readPixel?,
      narrowAt?_rowOf, tenBitsAt?_rowOf, fl.rowBytes_eq, fc.rowBytes_eq, SurfaceFormat.columns,
      Format.half]
    split_ifs <;> simp <;> omega
  | yuv420p | yv12 =>
    simp only [SurfaceFormat.shapes, List.forall₂_cons_left_iff, List.forall₂_nil_left_iff] at laid
    obtain ⟨luma, _, fl, ⟨u, _, fu, ⟨v, _, fv, rfl, rfl⟩, rfl⟩, rfl⟩ := laid
    simp only [rowsOf, layouts, List.zipWith_cons_cons, List.zipWith_nil_right, readPixel?,
      narrowAt?_rowOf, fl.rowBytes_eq, fu.rowBytes_eq, fv.rowBytes_eq, SurfaceFormat.columns,
      Format.half]
    split_ifs <;> simp <;> omega
  | gray8 | yuy2 | bgra | argb | rgba =>
    simp only [SurfaceFormat.shapes, List.forall₂_cons_left_iff, List.forall₂_nil_left_iff] at laid
    obtain ⟨plane, _, fills, rfl, rfl⟩ := laid
    simp only [rowsOf, layouts, List.zipWith_cons_cons, List.zipWith_nil_right, readPixel?,
      narrowAt?_rowOf, fills.rowBytes_eq, SurfaceFormat.columns, Format.half]
    split_ifs <;> simp <;> omega

def pixels? (planes : List Plane) (f : SurfaceFormat) (region : Region) :
    Option (Raster 4 region.width region.height) :=
  Vector.ofFnM fun y : Fin region.height => do
    let rows ← rowsAt? planes (region.top + y)
    Vector.ofFnM fun x : Fin region.width => readPixel? f rows (region.left + x)

section
variable (laid : f.Laid width height planes) (known : f ≠ .unknown) {region : Region}
  (fits : region.top + region.height ≤ height)
include laid known fits

theorem pixels?_eq :
    pixels? planes f region =
      Vector.ofFnM fun y : Fin region.height => Vector.ofFnM fun x : Fin region.width =>
        readPixel? f (rowsOf f planes (region.top + y)) (region.left + x) := by
  unfold pixels?
  congr 1
  funext y
  rw [rowsAt?_eq laid known (by omega)]
  rfl

theorem isSome_pixels? :
    (pixels? planes f region).isSome = true ↔ region.left + region.width ≤ f.columns width := by
  simp only [pixels?_eq laid known fits, isSome_ofFnM, isSome_readPixel? laid known]
  constructor
  · -- The last pixel of the first row tells how far the region reaches.
    intro all
    have last := all ⟨0, region.height_pos⟩
      ⟨region.width - 1, Nat.sub_lt region.width_pos Nat.one_pos⟩
    simp only at last
    omega
  · intro inside y x
    omega

end

theorem shapes_eq_cons (known : f ≠ .unknown) (width height : Nat) :
    ∃ rowBytes others, f.shapes width height = ⟨rowBytes, height⟩ :: others := by
  cases f with
  | unknown => exact absurd rfl known
  | _ => exact ⟨_, _, rfl⟩

/-- A picture is read from a surface unless the region ends below it; the columns are not
checked before. -/
theorem read_laid (laid : f.Laid width height planes) (known : f ≠ .unknown) (region : Region) :
    Picture.read planes f region =
      if height < region.top + region.height then .error (.refused .regionExceeds)
      else Attempt.ofOption do
        let pixels ← pixels? planes f region
        return ⟨region.width, region.height, region.width_pos, region.height_pos, f.isRgb,
          pixels⟩ := by
  have count : planes.length = Picture.planeCount f := by
    rw [laid.length_eq, Picture.planeCount, length_layouts]
  obtain ⟨rowBytes, others, same⟩ := shapes_eq_cons known width height
  simp only [SurfaceFormat.Laid, same, List.forall₂_cons_left_iff] at laid
  obtain ⟨first, rest, fills, _, rfl⟩ := laid
  unfold Picture.read
  rw [← count, List.take_length]
  simp only [Nat.lt_irrefl, if_false, fills.rows_eq]
  rfl

end Conversion

end VideoScaler
