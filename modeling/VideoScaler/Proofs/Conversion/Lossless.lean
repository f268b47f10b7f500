import VideoScaler.Proofs.Conversion.Bounds

/-! What copying a whole surface keeps.

Every plane is copied up to the bytes that its layout says a row has; the rest of the new
plane is zero. Only the rows of `yuy2` are longer than that: they end with a whole pair of
pixels, and at an odd width the layout counts half of it.
-/

set_option autoImplicit false

namespace VideoScaler

/-- Are the meaningful bytes of all rows zero from a column on? -/
def Plane.ZeroFrom (column : Nat) (p : Plane) : Prop :=
  ∀ y < p.rows, ∀ x < p.rowBytes, column ≤ x → p.byteAt y x = 0

theorem Plane.zeroFrom_of_rowBytes_le {p : Plane} {column : Nat} (short : p.rowBytes ≤ column) :
    p.ZeroFrom column := by
  intro y _ x hx beyond
  omega

namespace Conversion

variable {f : SurfaceFormat} {width height : Nat} {planes : List Plane} {region : Region}
  {d : PlaneLayout} {shape : Format.Shape} {p : Plane}

theorem copied_sameRows_iff (whole : region.Whole width height) (fills : Plane.Fills shape p)
    (rows : d.length height = shape.rows) :
    Plane.SameRows p (copied region d shape p) ↔ p.ZeroFrom (d.rowBytes width) := by
  have copy : Plane.Fills shape (copied region d shape p) := Plane.fills_build shape _
  rw [Plane.sameRows_iff_byteAt fills copy, Plane.ZeroFrom, fills.rows_eq, fills.rowBytes_eq]
  refine forall₂_congr fun y hy => forall₂_congr fun x hx => ?_
  rw [copied, Plane.byteAt_build _ hy hx, whole.left_eq, whole.top_eq, whole.width_eq,
    whole.height_eq, d.position_zero, rows, Nat.zero_add, Nat.zero_mul, Nat.zero_add]
  simp only [hy, true_and]
  -- What is copied is the same by definition; past the end of the layout the copy is zero.
  split
  case isTrue inside => exact ⟨fun _ beyond => absurd beyond (Nat.not_le.2 inside), fun _ => rfl⟩
  case isFalse outside => exact ⟨fun zero _ => zero, fun zero => zero (Nat.not_lt.1 outside)⟩

theorem copies_sameRows_iff {ds : List PlaneLayout} {shapes : List Format.Shape}
    {out : List Plane} (whole : region.Whole width height)
    (rows : List.Forall₂ (fun d shape => d.length height = shape.rows) ds shapes)
    (fills : List.Forall₂ Plane.Fills shapes planes)
    (copies : List.Forall₂ (fun slot q => q = copied region slot.1 slot.2.1 slot.2.2)
      (ds.zip (shapes.zip planes)) out) :
    List.Forall₂ Plane.SameRows planes out ↔
      List.Forall₂ (fun d p => p.ZeroFrom (d.rowBytes width)) ds planes := by
  -- Along the layouts, with the planes and their copies at the same positions.
  induction rows generalizing planes out with
  | nil =>
    cases fills
    cases copies
    exact iff_of_true .nil .nil
  | cons height_eq _ ih =>
    cases fills with
    | cons first others =>
      cases copies with
      | cons copy rest =>
        rw [List.forall₂_cons, List.forall₂_cons, ih others rest, copy,
          copied_sameRows_iff whole first height_eq]

theorem layouts_eq_shapes (single : f ≠ .yuy2) (width height : Nat) :
    List.Forall₂ (fun (d : PlaneLayout) (shape : Format.Shape) => shape.rowBytes = d.rowBytes width)
      (layouts f) (f.shapes width height) := by
  cases f <;>
    simp_all [layouts, SurfaceFormat.shapes, PlaneLayout.rowBytes, PlaneLayout.length,
      PlaneLayout.pixelBytes, PlaneLayout.sampleBytes]

/-- Only the rows of `yuy2` can be longer than their layout says, by the half of a pair. -/
theorem zeroFrom_layouts_iff (laid : f.Laid width height planes) :
    List.Forall₂ (fun d p => Plane.ZeroFrom (d.rowBytes width) p) (layouts f) planes ↔
      (f = .yuy2 → width % 2 = 1 → ∀ p ∈ planes, p.ZeroFrom (2 * width)) := by
  by_cases pairs : f = .yuy2
  · subst pairs
    simp only [SurfaceFormat.Laid, SurfaceFormat.shapes, List.forall₂_cons_left_iff,
      List.forall₂_nil_left_iff] at laid
    obtain ⟨plane, _, fills, rfl, rfl⟩ := laid
    have bytes : PlaneLayout.rowBytes ⟨2, false, false⟩ width = 2 * width := Nat.mul_comm ..
    simp only [layouts, bytes, List.forall₂_cons, List.Forall₂.nil, and_true, forall_const,
      List.mem_singleton, forall_eq]
    refine ⟨fun zero _ => zero, fun odd => ?_⟩
    by_cases half : width % 2 = 1
    · exact odd half
    · refine Plane.zeroFrom_of_rowBytes_le ?_
      rw [fills.rowBytes_eq]
      simp only [Format.half]
      omega
  · refine iff_of_true ?_ fun yuy2 => absurd yuy2 pairs
    refine forall₂_through ?_ (layouts_eq_shapes pairs width height) laid
    intro d shape p same fills
    exact Plane.zeroFrom_of_rowBytes_le (fills.rowBytes_eq.trans same).le

theorem convert_whole_copied (parameters : Parameters) {w h : UInt32}
    (laid : f.Laid w.toNat h.toNat planes) (known : f ≠ .unknown)
    (columns : 1 ≤ w.toNat ∧ w.toNat ≤ 2147483647) (rows : 1 ≤ h.toNat ∧ h.toNat ≤ 2147483647) :
    ∃ region out, convert parameters planes f (Surface.wholeRect w h) f w.toNat h.toNat = .ok out ∧
      region.Whole w.toNat h.toNat ∧
      List.Forall₂ (fun slot q => q = copied region slot.1 slot.2.1 slot.2.2)
        ((layouts f).zip ((f.shapes w.toNat h.toNat).zip planes)) out := by
  obtain ⟨region, found, whole⟩ := ofRect?_wholeRect columns rows
  have sameSize : region.width = w.toNat ∧ region.height = h.toNat :=
    ⟨whole.width_eq, whole.height_eq⟩
  have copy : convertPlane parameters.interpolation region w.toNat h.toNat = copyPlane region :=
    if_pos sameSize
  rw [convert_eq parameters planes f f found columns.1 rows.1,
    convertRegion_keeping laid known columns.1 rows.1 ⟨rfl, .inr sameSize⟩, copy]
  obtain ⟨out, converted, copies⟩ :=
    planewise_ok (R := fun d shape p q => q = copied region d shape p)
      (fun d shape p whole covered => ⟨_, copyPlane_eq shape whole covered, rfl⟩) laid.whole
      (f.shapes w.toNat h.toNat) (covered_of_within laid whole.within) 0
  exact ⟨region, out, converted, whole, copies⟩

theorem copied_whole_sameRows_iff {out : List Plane} (laid : f.Laid width height planes)
    (whole : region.Whole width height)
    (copies : List.Forall₂ (fun slot q => q = copied region slot.1 slot.2.1 slot.2.2)
      ((layouts f).zip ((f.shapes width height).zip planes)) out) :
    List.Forall₂ Plane.SameRows planes out ↔
      (f = .yuy2 → width % 2 = 1 → ∀ p ∈ planes, p.ZeroFrom (2 * width)) := by
  have rows := (layouts_le_shapes f width height).imp fun _ _ size => size.1
  exact (copies_sameRows_iff whole rows laid copies).trans (zeroFrom_layouts_iff laid)

theorem convert_whole_kept (parameters : Parameters) {w h : UInt32}
    (laid : f.Laid w.toNat h.toNat planes) (known : f ≠ .unknown)
    (pairs : f = .yuy2 → w.toNat % 2 = 0) (columns : 1 ≤ w.toNat ∧ w.toNat ≤ 2147483647)
    (rows : 1 ≤ h.toNat ∧ h.toNat ≤ 2147483647) :
    ∃ out, convert parameters planes f (Surface.wholeRect w h) f w.toNat h.toNat = .ok out ∧
      List.Forall₂ Plane.SameRows planes out := by
  obtain ⟨region, out, converted, whole, copies⟩ :=
    convert_whole_copied parameters laid known columns rows
  refine ⟨out, converted, (copied_whole_sameRows_iff laid whole copies).2 ?_⟩
  intro yuy2 odd
  have even := pairs yuy2
  omega

/-- Copying a whole surface gives planes of the same size. They have the same rows, but for
the last two bytes in the rows of `yuy2` at an odd width, which are lost unless they are
zero. -/
theorem convert_whole_sameRows_iff (parameters : Parameters) {w h : UInt32}
    (laid : f.Laid w.toNat h.toNat planes) (known : f ≠ .unknown)
    (columns : 1 ≤ w.toNat ∧ w.toNat ≤ 2147483647) (rows : 1 ≤ h.toNat ∧ h.toNat ≤ 2147483647) :
    ∃ out, convert parameters planes f (Surface.wholeRect w h) f w.toNat h.toNat = .ok out ∧
      f.Laid w.toNat h.toNat out ∧
      (List.Forall₂ Plane.SameRows planes out ↔
        (f = .yuy2 → w.toNat % 2 = 1 → ∀ p ∈ planes, p.ZeroFrom (2 * w.toNat))) := by
  obtain ⟨region, out, converted, whole, copies⟩ :=
    convert_whole_copied parameters laid known columns rows
  refine ⟨out, converted, ?_, copied_whole_sameRows_iff laid whole copies⟩
  refine laid_of_planewise (laid.length_eq.trans (length_layouts ..).symm) (copies.imp ?_)
  rintro slot q rfl
  exact Plane.fills_build _ _

theorem convert_whole_nv12_sameRows :
    SurfaceFormat.nv12.Laid 3 1 [Plane.packed #[1, 2, 3] 3 1, Plane.packed #[4, 5, 6, 7] 4 1] ∧
      ∃ out, convert {} [Plane.packed #[1, 2, 3] 3 1, Plane.packed #[4, 5, 6, 7] 4 1] .nv12
          (Surface.wholeRect 3 1) .nv12 3 1 = .ok out ∧
        List.Forall₂ Plane.SameRows
          [Plane.packed #[1, 2, 3] 3 1, Plane.packed #[4, 5, 6, 7] 4 1] out := by
  have laid : SurfaceFormat.nv12.Laid 3 1
      [Plane.packed #[1, 2, 3] 3 1, Plane.packed #[4, 5, 6, 7] 4 1] := by decide
  obtain ⟨out, converted, -, same⟩ :=
    convert_whole_sameRows_iff {} (w := 3) (h := 1) laid (by decide) (by decide) (by decide)
  exact ⟨laid, out, converted, same.2 nofun⟩

/-- The last pair of pixels of `yuy2` loses its second half. -/
theorem convert_whole_yuy2_loses :
    SurfaceFormat.yuy2.Laid 3 1 [Plane.packed #[17, 34, 51, 68, 85, 102, 119, 136] 8 1] ∧
      ∃ out, convert {} [Plane.packed #[17, 34, 51, 68, 85, 102, 119, 136] 8 1] .yuy2
          (Surface.wholeRect 3 1) .yuy2 3 1 = .ok out ∧
        ¬List.Forall₂ Plane.SameRows
          [Plane.packed #[17, 34, 51, 68, 85, 102, 119, 136] 8 1] out := by
  have laid : SurfaceFormat.yuy2.Laid 3 1
      [Plane.packed #[17, 34, 51, 68, 85, 102, 119, 136] 8 1] := by decide
  obtain ⟨region, out, converted, whole, copies⟩ :=
    convert_whole_copied {} (w := 3) (h := 1) laid (by decide) (by decide) (by decide)
  refine ⟨laid, out, converted, fun same => ?_⟩
  have zero := (copied_whole_sameRows_iff laid whole copies).1 same rfl rfl _ List.mem_cons_self
  exact absurd (zero 0 (by decide) 6 (by decide) (by decide)) (by decide)

end Conversion

end VideoScaler
