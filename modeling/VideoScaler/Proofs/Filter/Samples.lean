import VideoScaler.Filter.Bridge
import VideoScaler.Proofs.Conversion.Workspace
import VideoScaler.Proofs.Surface.Media
import VideoScaler.Proofs.Surface.Rows
import VideoScaler.Resolution

/-! The samples of frames in host memory on their way to a surface and back.

A frame with large enough planes is copied plane by plane; the padding of its rows stays
behind. What comes back from a surface has rows that follow each other without padding.
-/

set_option autoImplicit false

namespace VideoScaler

/-- Has a frame in host memory all samples of its format and size? -/
structure Frame.Sampled (f : Frame) : Prop where
  payload_eq : f.payload = none
  count : (f.format.shapes f.width.toNat f.height.toNat).length ≤ f.planes.length
  large : ∀ slot ∈ (f.format.shapes f.width.toNat f.height.toNat).zip f.planes,
    Bridge.holds slot.2 slot.1 = true

/-- Can there be arrays for a frame, for its result and for the samples in between? Only frames in
host memory get planes of their own before they are converted. -/
structure Frame.HasRoom (f : Frame) (source target : SurfaceFormat) (size : Resolution) :
    Prop where
  upload : f.payload = none → source.Fits f.width.toNat f.height.toNat
  result : target.Fits size.width.toNat size.height.toNat
  samples : Conversion.HasRoom source target f.width.toNat f.height.toNat size.width.toNat
    size.height.toNat

instance (f : Frame) (source target : SurfaceFormat) (size : Resolution) :
    Decidable (f.HasRoom source target size) :=
  decidable_of_iff ((f.payload = none → source.Fits f.width.toNat f.height.toNat) ∧
      target.Fits size.width.toNat size.height.toNat ∧
      Conversion.HasRoom source target f.width.toNat f.height.toNat size.width.toNat
        size.height.toNat)
    ⟨fun room => ⟨room.1, room.2.1, room.2.2⟩, fun room => ⟨room.upload, room.result, room.samples⟩⟩

structure FramePlane.Tight (shape : Format.Shape) (p : FramePlane) : Prop where
  linesize_eq : p.linesize = shape.rowBytes
  size_eq : p.data.size = shape.bytes

namespace Bridge

variable {shapes : List Format.Shape} {shape : Format.Shape} {format : PixelFormat}

theorem holds_iff {plane : FramePlane} :
    holds plane shape = true ↔ shape.rowBytes ≤ plane.linesize ∧
      plane.linesize * (shape.rows - 1) + shape.rowBytes ≤ plane.data.size := by
  simp only [holds, Bool.and_eq_true, decide_eq_true_eq]

def uploaded (shape : Format.Shape) (plane : FramePlane) : Plane :=
  Plane.build shape fun y x => plane.data.getD (y * plane.linesize + x) 0

theorem uploadPlanes_eq {planes : List FramePlane}
    (large : ∀ slot ∈ shapes.zip planes, holds slot.2 slot.1 = true) (i : Nat) :
    uploadPlanes format i shapes planes = .ok (List.zipWith uploaded shapes planes) := by
  induction shapes generalizing planes i with
  | nil => simp [uploadPlanes]
  | cons shape shapes ih =>
    cases planes with
    | nil => simp [uploadPlanes]
    | cons plane planes =>
      have first : holds plane shape = true := large (shape, plane) (by simp)
      have rest := @ih planes
        (fun slot member => large slot (List.mem_cons_of_mem _ member)) (i + 1)
      simp only [uploadPlanes, if_pos first, rest]
      rfl

theorem fills_uploaded {planes : List FramePlane} (count : shapes.length ≤ planes.length) :
    List.Forall₂ Plane.Fills shapes (List.zipWith uploaded shapes planes) := by
  induction shapes generalizing planes with
  | nil => exact .nil
  | cons shape shapes ih =>
    cases planes with
    | nil => cases count
    | cons plane planes =>
      exact .cons (Plane.fills_build shape _) (ih (Nat.le_of_succ_le_succ count))

def uploadedPlanes (frame : Frame) : List Plane :=
  List.zipWith uploaded (frame.format.shapes frame.width.toNat frame.height.toNat) frame.planes

section
variable {frame : Frame} (context : DeviceContext) (sampled : frame.Sampled)
  (known : SurfaceFormat.ofPixelFormat frame.format ≠ .unknown) (columns : frame.width ≠ 0)
  (rows : frame.height ≠ 0)
  (fits : (SurfaceFormat.ofPixelFormat frame.format).Fits frame.width.toNat frame.height.toNat)
include sampled known

theorem laid_uploadedPlanes :
    (SurfaceFormat.ofPixelFormat frame.format).Laid frame.width.toNat frame.height.toNat
      (uploadedPlanes frame) := by
  rw [SurfaceFormat.Laid, SurfaceFormat.shapes_ofPixelFormat known]
  exact fills_uploaded sampled.count

include columns rows fits

theorem surfaceOfHost_sampled (m : Media) :
    surfaceOfHost context frame m =
      (.ok (m.makeSurface .host (.ofPixelFormat frame.format) frame.width frame.height
          (uploadedPlanes frame)).1,
        (m.makeSurface .host (.ofPixelFormat frame.format) frame.width frame.height
          (uploadedPlanes frame)).2) := by
  have host : ¬(MemoryType.host ≠ .host ∧ MemoryType.host ≠ context.memory) := fun other =>
    other.1 rfl
  have allocated := SurfaceFormat.allocation_ok known columns rows fits
  rw [SurfaceFormat.shapes_ofPixelFormat known] at allocated
  have enough : upload frame (frame.format.shapes frame.width.toNat frame.height.toNat) =
      .ok (uploadedPlanes frame) := by
    rw [upload, if_neg (Nat.not_lt.2 sampled.count), uploadPlanes_eq sampled.large]
    rfl
  simp only [surfaceOfHost, if_neg known, Media.allocation, if_neg host, allocated, enough]

theorem toSurface_sampled (w : World) :
    ∃ s w₁ state, toSurface context frame w = (.ok s, w₁) ∧
      s.format = .ofPixelFormat frame.format ∧ w₁.media.surfaces.get? s.ref = some state ∧
      state.crop = Surface.wholeRect frame.width frame.height ∧
      w₁.media.Has s (uploadedPlanes frame) := by
  -- The new surface shows all of its picture; the time stamp that is put on it changes no plane.
  let made := w.media.makeSurface .host (.ofPixelFormat frame.format) frame.width frame.height
    (uploadedPlanes frame)
  have has : made.2.Has made.1 (uploadedPlanes frame) := Media.has_makeSurface ..
  obtain ⟨state, crop_eq, ref_eq, surfaces_eq⟩ := w.media.makeSurface_surfaces .host
    (.ofPixelFormat frame.format) frame.width frame.height (uploadedPlanes frame)
  refine ⟨made.1, { w with media := made.2.setPts made.1 frame.pts },
    { state with pts := frame.pts }, ?_, rfl, ?_, crop_eq, has.setPts made.1 frame.pts⟩
  · simp only [toSurface, sampled.payload_eq,
      surfaceOfHost_sampled context sampled known columns rows fits w.media]
    rfl
  · simp only [Media.setPts, Media.modifySurface, Arena.get?_modify_self, made, surfaces_eq, ref_eq,
      Arena.get?_add_self, Option.map_some]

end

section
variable {frame : Frame} (context : DeviceContext)
  (known : SurfaceFormat.ofPixelFormat frame.format ≠ .unknown) (columns : frame.width ≠ 0)
  (rows : frame.height ≠ 0)
  (large : ¬(SurfaceFormat.ofPixelFormat frame.format).Fits frame.width.toNat frame.height.toNat)
include known columns rows large

/-- Whatever its planes are, a frame that is too large for a surface breaks the copy off. -/
theorem surfaceOfHost_tooLarge (m : Media) :
    surfaceOfHost context frame m = (.error (.broken .tooLarge), m) := by
  have host : ¬(MemoryType.host ≠ .host ∧ MemoryType.host ≠ context.memory) := fun other =>
    other.1 rfl
  simp only [surfaceOfHost, if_neg known, Media.allocation, if_neg host,
    SurfaceFormat.allocation_eq known columns rows, if_neg large]
  rfl

theorem toSurface_tooLarge (host : frame.payload = none) (w : World) :
    toSurface context frame w = (.error (.broken .tooLarge), w) := by
  simp only [toSurface, host, surfaceOfHost_tooLarge context known columns rows large]

end

def downloaded (shape : Format.Shape) (p : Plane) : FramePlane :=
  { data := Array.ofFn fun i : Fin shape.bytes =>
      p.byteAt (i.val / shape.rowBytes) (i.val % shape.rowBytes)
    linesize := shape.rowBytes }

theorem tight_downloaded (shape : Format.Shape) (p : Plane) : (downloaded shape p).Tight shape :=
  ⟨rfl, Array.size_ofFn⟩

-- `List.mapM_pure` does not apply: the rows of a plane are there for the numbers of the list only.
theorem mapM_eq_some {α β : Type} {f : α → Option β} {g : α → β} {l : List α}
    (all : ∀ a ∈ l, f a = some (g a)) : l.mapM f = some (l.map g) := by
  induction l with
  | nil => rfl
  | cons a l ih =>
    rw [List.mapM_cons, all a List.mem_cons_self,
      ih fun a member => all a (List.mem_cons_of_mem _ member)]
    rfl

theorem downloadPlane?_eq {p : Plane} (fills : Plane.Fills shape p) :
    downloadPlane? shape p = some (downloaded shape p) := by
  have rows : (Array.range (min shape.rows p.rows)).mapM p.row?
      = some ((Array.range shape.rows).map p.rowOf) := by
    rw [fills.rows_eq, Nat.min_self, Array.mapM_eq_mapM_toList,
      mapM_eq_some (g := p.rowOf) fun y member => fills.row? (by simpa using member)]
    refine congrArg some (Array.ext' ?_)
    simp
  simp only [downloadPlane?, rows, Option.pure_def, Option.bind_eq_bind, Option.bind_some,
    downloaded, Option.some.injEq, FramePlane.mk.injEq, and_true]
  congr 1
  funext i
  -- Byte `i` without padding is a byte of a row that is there, in a column that is there.
  have inside : i.val / shape.rowBytes < shape.rows := Nat.div_lt_of_lt_mul i.isLt
  have column : i.val % shape.rowBytes < p.rowBytes := by
    rw [fills.rowBytes_eq]
    refine Nat.mod_lt _ (Nat.pos_of_ne_zero fun zero => ?_)
    have bound := i.isLt
    simp [Format.Shape.bytes, zero] at bound
  simp [inside, Array.getD_eq_getD_getElem?, column]

theorem download_eq {planes : List Plane} (fills : List.Forall₂ Plane.Fills shapes planes)
    (fit : Bytes.Fit (shapes.map Format.Shape.bytes)) (i : Nat) :
    download shapes planes i = .ok (List.zipWith downloaded shapes planes) := by
  induction fills generalizing i with
  | nil => simp [download]
  | cons first _ ih =>
    obtain ⟨room, rest⟩ := List.forall_mem_cons.1 fit
    simp only [download, Attempt.room_of_fit (List.forall_mem_singleton.2 room),
      downloadPlane?_eq first, Attempt.ofOption, ih rest (i + 1)]
    rfl

theorem tight_zipWith_downloaded {planes : List Plane} (count : shapes.length = planes.length) :
    List.Forall₂ FramePlane.Tight shapes (List.zipWith downloaded shapes planes) := by
  induction shapes generalizing planes with
  | nil => exact .nil
  | cons shape shapes ih =>
    cases planes with
    | nil => cases count
    | cons plane planes => exact .cons (tight_downloaded shape plane) (ih (Nat.succ.inj count))

variable {pool : FramePool}

theorem toFrame_host (host : pool.desc.format.isHardware = false) (s : Surface) (w : World) :
    toFrame pool s w = (hostFrame pool s w.media, { w with media := w.media.release s }) := by
  unfold toFrame
  split
  case h_1 format_eq => rw [format_eq] at host; cases host
  case h_2 format_eq => rw [format_eq] at host; cases host
  case h_3 format_eq => rw [format_eq] at host; cases host
  case h_4 => rfl

theorem hostFrame_eq (pool : FramePool) {s : Surface} {m : Media} {planes : List Plane}
    (format_eq : s.format = .ofPixelFormat pool.desc.format) (known : s.format ≠ .unknown)
    (has : m.Has s planes) (laid : s.format.Laid s.width.toNat s.height.toNat planes)
    (fits : s.format.Fits s.width.toNat s.height.toNat) :
    hostFrame pool s m =
      .ok { format := pool.desc.format, width := s.width, height := s.height
            planes := List.zipWith downloaded
              (pool.desc.format.shapes s.width.toNat s.height.toNat) planes
            pool := some pool } := by
  rw [format_eq] at known laid fits
  have fit := fits.shapes
  rw [SurfaceFormat.Laid, SurfaceFormat.shapes_ofPixelFormat known] at laid
  rw [SurfaceFormat.shapes_ofPixelFormat known] at fit
  simp only [hostFrame, format_eq, ne_eq, not_true_eq_false, if_false, has.planes_eq,
    download_eq laid fit]

end Bridge

end VideoScaler
