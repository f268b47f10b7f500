import VideoScaler.Proofs.Conversion.Lossless
import VideoScaler.Proofs.Filter.Copying
import VideoScaler.Proofs.Filter.HostFrame

/-! Frames that are neither scaled nor converted.

The samples of such a frame are copied three times, between rows that are a different distance
apart each time: those of the frame, those of two surfaces, and those of the new frame. The
meaningful rows are what all copies keep, so they are followed from each plane to the next.
-/

set_option autoImplicit false

namespace VideoScaler

variable {shapes : List Format.Shape} {shape : Format.Shape} {planes : List Plane} {p : Plane}
  {plane : FramePlane} {framePlanes : List FramePlane}

def FramePlane.viewed (shape : Format.Shape) (plane : FramePlane) : Plane :=
  ⟨plane.data, plane.linesize, shape.rowBytes, shape.rows⟩

def Frame.viewed (f : Frame) : List Plane :=
  List.zipWith FramePlane.viewed (f.format.shapes f.width.toNat f.height.toNat) f.planes

theorem Bridge.fills_viewed (large : holds plane shape = true) :
    Plane.Fills shape (plane.viewed shape) :=
  ⟨rfl, rfl, fun _ hy => row_end_le_size large hy⟩

/-- Laying out the rows of a plane anew adds less than 64 bytes to each. -/
theorem Bridge.bytesFor_le (large : holds plane shape = true) (rows : shape.rows ≤ 2147483647) :
    Plane.bytesFor shape ≤ plane.data.size + 64 * 2147483647 := by
  have pitch_le : Plane.pitchFor shape.rowBytes ≤ shape.rowBytes + 64 := by
    unfold Plane.pitchFor
    omega
  have meaningful : shape.rowBytes * shape.rows ≤ plane.data.size := by
    obtain ⟨wide, last⟩ := holds_iff.1 large
    cases count : shape.rows with
    | zero => exact Nat.zero_le _
    | succ n =>
      rw [count, Nat.add_sub_cancel] at last
      calc
        shape.rowBytes * (n + 1) = shape.rowBytes * n + shape.rowBytes := Nat.mul_succ ..
        _ ≤ plane.linesize * n + shape.rowBytes :=
          Nat.add_le_add_right (Nat.mul_le_mul_right n wide) _
        _ ≤ plane.data.size := last
  calc
    Plane.bytesFor shape ≤ (shape.rowBytes + 64) * shape.rows := Nat.mul_le_mul_right _ pitch_le
    _ = shape.rowBytes * shape.rows + 64 * shape.rows := Nat.add_mul ..
    _ ≤ plane.data.size + 64 * 2147483647 :=
      Nat.add_le_add meaningful (Nat.mul_le_mul_left 64 rows)

/-- There is room for the surface of a frame, unless the frame itself has a plane that is almost as
large as an array can be. -/
theorem Frame.Sampled.fits {f : Frame} (sampled : f.Sampled)
    (known : SurfaceFormat.ofPixelFormat f.format ≠ .unknown)
    (columns : f.width.toNat ≤ 2147483647) (rows : f.height.toNat ≤ 2147483647)
    (short : ∀ plane ∈ f.planes, plane.data.size + 64 * 2147483647 ≤ Bytes.limit) :
    (SurfaceFormat.ofPixelFormat f.format).Fits f.width.toNat f.height.toNat := by
  rw [SurfaceFormat.fits_iff, SurfaceFormat.shapes_ofPixelFormat known]
  intro shape member
  have rows_le := (PixelFormat.shape_le columns rows shape member).2
  obtain ⟨i, shaped, rfl⟩ := List.getElem_of_mem member
  have there : i < f.planes.length := Nat.lt_of_lt_of_le shaped sampled.count
  have slot : ((f.format.shapes f.width.toNat f.height.toNat)[i], f.planes[i]) ∈
      (f.format.shapes f.width.toNat f.height.toNat).zip f.planes :=
    List.mem_iff_getElem.2 ⟨i, by simp [shaped, there], List.getElem_zip⟩
  exact Nat.le_trans (Bridge.bytesFor_le (sampled.large _ slot) rows_le)
    (short _ (List.getElem_mem there))

theorem mapM_congr_of_forall₂ {α β γ : Type} {f : α → Option γ} {g : β → Option γ} {as : List α}
    {bs : List β} (same : List.Forall₂ (fun a b => f a = g b) as bs) : as.mapM f = bs.mapM g := by
  induction same with
  | nil => rfl
  | cons first _ ih => rw [List.mapM_cons, List.mapM_cons, first, ih]

theorem Plane.SameRows.meaningful?_eq {p q : Plane} (same : SameRows p q) :
    p.meaningful? = q.meaningful? := by
  obtain ⟨-, rows, row⟩ := same
  unfold meaningful?
  rw [← rows]
  refine mapM_congr_of_forall₂ (List.forall₂_same.2 fun y member => ?_)
  exact row y (List.mem_range.1 member)

theorem Plane.Whole.meaningful?_eq (whole : p.Whole) :
    p.meaningful? = some ((List.range p.rows).map p.rowOf) :=
  Bridge.mapM_eq_some fun _ member => whole.row? (List.mem_range.1 member)

theorem viewed_rows (shapes : List Format.Shape) (framePlanes : List FramePlane) :
    List.Forall₂ (fun slot p => Frame.meaningfulRows? slot.1 slot.2 = Plane.meaningful? p)
      (framePlanes.zip shapes) (List.zipWith FramePlane.viewed shapes framePlanes) := by
  induction shapes generalizing framePlanes with
  | nil =>
    rw [List.zip_nil_right]
    exact .nil
  | cons shape shapes ih =>
    cases framePlanes with
    | nil => exact .nil
    | cons plane framePlanes => exact .cons rfl (ih framePlanes)

theorem Frame.packed?_eq (f : Frame) :
    f.packed? = (f.viewed.mapM Plane.meaningful?).map fun rows =>
      rows.flatten.foldl (· ++ ·) #[] := by
  have rows := mapM_congr_of_forall₂
    (viewed_rows (f.format.shapes f.width.toNat f.height.toNat) f.planes)
  show (List.mapM (fun slot => meaningfulRows? slot.1 slot.2) (f.planes.zip _) >>= _) = _
  rw [rows]
  show (f.viewed.mapM Plane.meaningful? >>= _) = _
  cases f.viewed.mapM Plane.meaningful? <;> rfl

section
variable {f : Frame} (same : List.Forall₂ Plane.SameRows f.viewed planes)
include same

theorem Frame.packed?_congr {g : Frame} (same' : List.Forall₂ Plane.SameRows planes g.viewed) :
    f.packed? = g.packed? := by
  have rows : List.Forall₂ (fun p q => Plane.meaningful? p = Plane.meaningful? q) f.viewed
      g.viewed := by
    refine Conversion.forall₂_through ?_ same same'
    intro p q r first second
    exact first.meaningful?_eq.trans second.meaningful?_eq
  rw [f.packed?_eq, g.packed?_eq, mapM_congr_of_forall₂ rows]

theorem Frame.packed?_of_whole (whole : ∀ p ∈ planes, p.Whole) :
    ∃ bytes, f.packed? = some bytes := by
  have rows := mapM_congr_of_forall₂ (same.imp fun _ _ rows => rows.meaningful?_eq)
  rw [f.packed?_eq, rows, Bridge.mapM_eq_some fun p member => (whole p member).meaningful?_eq]
  exact ⟨_, rfl⟩

end

namespace Bridge

theorem sameRows_uploaded (large : ∀ slot ∈ shapes.zip framePlanes, holds slot.2 slot.1 = true) :
    List.Forall₂ Plane.SameRows (List.zipWith FramePlane.viewed shapes framePlanes)
      (List.zipWith uploaded shapes framePlanes) := by
  induction shapes generalizing framePlanes with
  | nil => exact .nil
  | cons shape shapes ih =>
    cases framePlanes with
    | nil => exact .nil
    | cons plane framePlanes =>
      refine .cons ?_ (ih fun slot member => large slot (List.mem_cons_of_mem _ member))
      have first : holds plane shape = true := large (shape, plane) List.mem_cons_self
      exact Plane.sameRows_build (fills_viewed first) fun _ _ _ _ => rfl

theorem byteAt_downloaded {x y : Nat} (hy : y < shape.rows) (hx : x < shape.rowBytes) :
    ((downloaded shape p).viewed shape).byteAt y x = p.byteAt y x := by
  have column : (y * shape.rowBytes + x) % shape.rowBytes = x := by
    rw [Nat.mul_add_mod_self_right, Nat.mod_eq_of_lt hx]
  have row : (y * shape.rowBytes + x) / shape.rowBytes = y := by
    rw [Nat.mul_comm, Nat.mul_add_div (Nat.zero_lt_of_lt hx), Nat.div_eq_of_lt hx, Nat.add_zero]
  have inside : y * shape.rowBytes + x < shape.bytes := Plane.row_end_le (x := x + 1) hy hx
  simp [Plane.byteAt, FramePlane.viewed, downloaded, Array.getD, inside, column, row]

theorem fills_downloaded (shape : Format.Shape) (p : Plane) :
    Plane.Fills shape ((downloaded shape p).viewed shape) := by
  refine ⟨rfl, rfl, fun y hy => ?_⟩
  show y * shape.rowBytes + shape.rowBytes ≤ (downloaded shape p).data.size
  rw [(tight_downloaded shape p).size_eq]
  exact Plane.row_end_le hy (Nat.le_refl _)

theorem sameRows_downloaded (fills : List.Forall₂ Plane.Fills shapes planes) :
    List.Forall₂ Plane.SameRows planes
      (List.zipWith FramePlane.viewed shapes (List.zipWith downloaded shapes planes)) := by
  induction fills with
  | nil => exact .nil
  | cons first _ ih =>
    refine .cons ?_ ih
    refine (Plane.sameRows_iff_byteAt first (fills_downloaded ..)).2 fun y hy x hx => ?_
    exact (byteAt_downloaded hy hx).symm

end Bridge

namespace ScaleFilter

variable {f g : ScaleFilter Converter} {link : InputLink} {outFormat : PixelFormat}
  {output : OutputLink} {w v : World} {input : Frame}

/-- Between links of the same format and size a frame keeps all of its bytes if there is room for
its surface. There is, unless a plane of the frame itself is almost as large as an array can be,
which is more than any memory holds. Only the rows of `yuyv422` end with a whole pair of pixels,
which an odd width would cut off. -/
theorem filterFrame_unchanged
    (accepted : f.configOutput softwareRuntime link outFormat w = (.ok output, g, v))
    (hostOut : outFormat.isHardware = false) (sameFormat : link.format = outFormat)
    (earlier : List (Frame × World)) (format_eq : input.format = link.format)
    (sampled : input.Sampled) (sameWidth : output.width = input.width)
    (sameHeight : output.height = input.height)
    (pairs : outFormat = .yuyv422 → input.width.toNat % 2 = 0)
    (columns : 1 ≤ input.width.toNat ∧ input.width.toNat ≤ 2147483647)
    (rows : 1 ≤ input.height.toNat ∧ input.height.toNat ≤ 2147483647) (u : World) :
    ((SurfaceFormat.ofPixelFormat input.format).Fits input.width.toNat input.height.toNat →
      ∃ out h u' bytes, (g.afterFrames earlier).filterFrame input u = (.ok out, h, u') ∧
        input.packed? = some bytes ∧ out.packed? = some bytes) ∧
    ((∀ plane ∈ input.planes, plane.data.size + 64 * 2147483647 ≤ Bytes.limit) →
      (SurfaceFormat.ofPixelFormat input.format).Fits input.width.toNat input.height.toNat) := by
  obtain ⟨-, offered, setup, c, serves, agreement⟩ := configOutput_ok accepted
  have yields := yields_of_host agreement offered hostOut
  obtain ⟨later, -⟩ := serves.afterFrames agreement.ready.pending_eq earlier
  have hostIn : link.format.isHardware = false := sameFormat ▸ hostOut
  have layout_eq : input.format = setup.layout := by
    rw [format_eq, agreement.layout_eq, layout_of_host hostIn]
  have known : SurfaceFormat.ofPixelFormat input.format ≠ .unknown := by
    rw [layout_eq]
    exact agreement.readable
  refine ⟨fun fits => ?_, sampled.fits known columns.2 rows.2⟩
  have room : input.HasRoom (.ofPixelFormat input.format) (.ofPixelFormat outFormat)
      output.size := by
    have size_eq : output.size = ⟨input.width, input.height⟩ := by
      rw [OutputLink.size, sameWidth, sameHeight]
    rw [size_eq, ← sameFormat, ← format_eq]
    exact ⟨fun _ => fits, fits, Conversion.hasRoom_copy _ _ _⟩
  obtain ⟨h, frame, u', converted, scaled, -, -, result, fills, planes_eq⟩ :=
    later.convert_planes agreement yields hostOut layout_eq sampled columns rows u room
  have laid := Bridge.laid_uploadedPlanes sampled known
  have paired : SurfaceFormat.ofPixelFormat input.format = .yuy2 → input.width.toNat % 2 = 0 := by
    intro packed
    refine pairs (sameFormat ▸ format_eq ▸ ?_)
    revert packed
    cases input.format <;> decide
  -- The conversion in the middle copies, as layout and size stay.
  obtain ⟨copies, copied, kept⟩ :=
    Conversion.convert_whole_kept c.parameters laid known paired columns rows
  rw [format_eq, sameFormat] at copied
  rw [sameWidth, sameHeight, format_eq, sameFormat] at result
  obtain rfl : copies = converted := Except.ok.inj (copied.symm.trans result)
  -- From the frame to its surface, to the converted surface, and to the new frame.
  let out := finishFrame (g.afterFrames earlier).config output input frame
  have arrived : List.Forall₂ Plane.SameRows input.viewed (Bridge.uploadedPlanes input) :=
    Bridge.sameRows_uploaded sampled.large
  have left : List.Forall₂ Plane.SameRows copies out.viewed := by
    show List.Forall₂ Plane.SameRows copies (List.zipWith FramePlane.viewed _ frame.planes)
    rw [planes_eq]
    exact Bridge.sameRows_downloaded fills
  have through : List.Forall₂ Plane.SameRows input.viewed copies :=
    Conversion.forall₂_through (fun _ _ _ first second => first.trans second) arrived kept
  obtain ⟨bytes, packed⟩ := Frame.packed?_of_whole arrived laid.whole
  exact ⟨out, h, u', bytes, scaled, packed, (Frame.packed?_congr through left).symm.trans packed⟩

def paddedFrame : Frame where
  format := .yuv420p
  width := 4
  height := 2
  planes := [⟨#[1, 2, 3, 4, 0, 5, 6, 7, 8], 5⟩, ⟨#[9, 10], 3⟩, ⟨#[11, 12, 0], 3⟩]

theorem unchanged_four_by_two :
    ∃ output g v out h u,
      (⟨.new, none, {}, none⟩ : ScaleFilter Converter).configOutput softwareRuntime
        { format := .yuv420p, width := 4, height := 2 } .yuv420p .empty = (.ok output, g, v) ∧
      (g.afterFrames []).filterFrame paddedFrame .empty = (.ok out, h, u) ∧
      out.packed? = some #[1, 2, 3, 4, 5, 6, 7, 8, 9, 10, 11, 12] := by
  have sized : ∃ output g v, (⟨.new, none, {}, none⟩ : ScaleFilter Converter).configOutput
      softwareRuntime { format := .yuv420p, width := 4, height := 2 } .yuv420p .empty
        = (.ok output, g, v) ∧ output.size = ⟨4, 2⟩ :=
    configOutput_sized rfl rfl
      (plan_of_resolve (Dimensions.resolve_four_by_two Ratio.unset .yuv420p .yuv420p) rfl) rfl
  obtain ⟨output, g, v, accepted, size_eq⟩ := sized
  have sampled : paddedFrame.Sampled := ⟨rfl, by decide, by decide⟩
  obtain ⟨out, h, u, bytes, scaled, before, after⟩ :=
    (filterFrame_unchanged accepted (by decide) rfl [] rfl sampled
      (congrArg Resolution.width size_eq) (congrArg Resolution.height size_eq) (by decide)
      (by decide) (by decide) .empty).1 (by decide)
  exact ⟨output, g, v, out, h, u, accepted, scaled, after.trans (before.symm.trans (by rfl))⟩

end ScaleFilter

end VideoScaler
