import VideoScaler.Proofs.Filter.Arrival
import VideoScaler.Proofs.Filter.Copying
import VideoScaler.Proofs.Filter.Unchanged

/-! Frames in host memory that are carried to a surface and back.

A frame gets a surface exactly if there is room for one and the rows of all its planes are there; a
surface that was made for another one is given up again. What comes back from the surface has the
same rows, whatever padding was between them. As the surface is made before the planes are looked
at, a frame without any planes can be too large for it.
-/

set_option autoImplicit false

namespace VideoScaler

namespace Media

variable (m : Media) (format : SurfaceFormat) (width height : UInt32) (planes : List Plane)

theorem release_makeSurface :
    (m.makeSurface .host format width height planes).2.release
      (m.makeSurface .host format width height planes).1 =
        { m with
          surfaces := (m.surfaces.add ⟨Surface.wholeRect width height, 0, 0, [], true⟩).2
          created := m.created + 1
          released := m.released + 1 } := by
  simp only [release, makeSurface, addSurface, modifySurface, Arena.get?_add_self,
    Arena.modify_add_self, if_true]

theorem setPlanes_makeSurface (new : List Plane) :
    (m.makeSurface .host format width height planes).2.setPlanes
      (m.makeSurface .host format width height planes).1 new =
        (m.makeSurface .host format width height new).2 := by
  simp only [setPlanes, makeSurface, addSurface, modifySurface, Arena.modify_add_self]

theorem live_release_makeSurface :
    ((m.makeSurface .host format width height planes).2.release
      (m.makeSurface .host format width height planes).1).live = m.live := by
  rw [release_makeSurface]
  exact Nat.add_sub_add_right ..

theorem holders_release_makeSurface (s : Surface) :
    ((m.makeSurface .host format width height planes).2.release
      (m.makeSurface .host format width height planes).1).holders s = m.holders s := by
  let gone : SurfaceState := ⟨Surface.wholeRect width height, 0, 0, [], true⟩
  rw [release_makeSurface]
  show (((m.surfaces.add gone).2.get? s.ref).map SurfaceState.holders).getD 0 = _
  by_cases same : (m.surfaces.add gone).1 = s.ref
  · rw [holders, ← same, Arena.get?_add_self, Arena.get?_add_new]
    rfl
  · rw [Arena.get?_add_of_ne same, holders]

end Media

namespace Bridge

variable {shapes : List Format.Shape} {sources : List FramePlane} {format : PixelFormat}

theorem holds_of_uploadPlanes {i : Nat} {planes : List Plane}
    (accepted : uploadPlanes format i shapes sources = .ok planes) :
    ∀ slot ∈ shapes.zip sources, holds slot.2 slot.1 = true := by
  induction shapes generalizing sources i planes with
  | nil => simp
  | cons shape shapes ih =>
    cases sources with
    | nil => simp
    | cons source sources =>
      unfold uploadPlanes at accepted
      split at accepted
      case isFalse => cases accepted
      case isTrue large =>
        cases rest : uploadPlanes format (i + 1) shapes sources with
        | error e =>
          rw [rest] at accepted
          cases accepted
        | ok planes =>
          rw [List.zip_cons_cons, List.forall_mem_cons]
          exact ⟨large, ih rest⟩

theorem upload_ok_iff {frame : Frame} :
    (∃ planes, upload frame shapes = .ok planes) ↔ shapes.length ≤ frame.planes.length ∧
      ∀ slot ∈ shapes.zip frame.planes, holds slot.2 slot.1 = true := by
  unfold upload
  by_cases short : frame.planes.length < shapes.length
  · rw [if_pos short]
    constructor
    · rintro ⟨planes, accepted⟩
      cases accepted
    · rintro ⟨count, -⟩
      exact absurd short (Nat.not_lt_of_le count)
  · rw [if_neg short]
    constructor
    · rintro ⟨planes, accepted⟩
      exact ⟨Nat.le_of_not_lt short, holds_of_uploadPlanes accepted⟩
    · rintro ⟨-, large⟩
      exact ⟨_, uploadPlanes_eq large 0⟩

theorem sampled_iff {frame : Frame} (host : frame.payload = none) :
    frame.Sampled ↔ ∃ planes,
      upload frame (frame.format.shapes frame.width.toNat frame.height.toNat) = .ok planes := by
  rw [upload_ok_iff]
  exact ⟨fun sampled => ⟨sampled.count, sampled.large⟩, fun ⟨count, large⟩ => ⟨host, count, large⟩⟩

/-- Make a surface and copy the samples of a frame into it, one row after the other. A surface
that is not filled is given up again. -/
def copyToSurface (context : DeviceContext) (frame : Frame) (w : World) :
    Attempt Error Surface × World :=
  let format := SurfaceFormat.ofPixelFormat frame.format
  if format = .unknown then (.error (.refused (.format (.noSurfaceFormat frame.format))), w)
  else
    match w.media.allocSurface context.memory .host format frame.width frame.height with
    | .error failure =>
      (.error (failure.map fun status => .resource (.allocSurface status)), w)
    | .ok (s, m) =>
      match copyFrame frame (frame.format.shapes frame.width.toNat frame.height.toNat)
          (m.planes s) with
      | .ok planes => (.ok s, { w with media := (m.setPlanes s planes).setPts s frame.pts })
      | .error failure => (.error (failure.map Error.format), { w with media := m.release s })

variable {frame : Frame} (context : DeviceContext)

section
variable (known : SurfaceFormat.ofPixelFormat frame.format ≠ .unknown)
  (columns : frame.width ≠ 0) (rows : frame.height ≠ 0)
include known columns rows

theorem allocation_host : Media.allocation context.memory .host (.ofPixelFormat frame.format)
    frame.width frame.height =
      if (SurfaceFormat.ofPixelFormat frame.format).Fits frame.width.toNat frame.height.toNat then
        .ok (frame.format.shapes frame.width.toNat frame.height.toNat)
      else .error (.broken .tooLarge) := by
  have host : ¬(MemoryType.host ≠ .host ∧ MemoryType.host ≠ context.memory) := fun other =>
    other.1 rfl
  rw [Media.allocation, if_neg host, SurfaceFormat.allocation_eq known columns rows,
    SurfaceFormat.shapes_ofPixelFormat known]

variable
  (fits : (SurfaceFormat.ofPixelFormat frame.format).Fits frame.width.toNat frame.height.toNat)
include fits

theorem surfaceOfHost_ok {planes : List Plane}
    (filled : upload frame (frame.format.shapes frame.width.toNat frame.height.toNat) = .ok planes)
    (m : Media) :
    surfaceOfHost context frame m =
      (.ok (m.makeSurface .host (.ofPixelFormat frame.format) frame.width frame.height planes).1,
        (m.makeSurface .host (.ofPixelFormat frame.format) frame.width frame.height planes).2) := by
  simp only [surfaceOfHost, if_neg known, allocation_host context known columns rows, if_pos fits,
    filled]

theorem surfaceOfHost_refused {cause : FormatError} (refused : upload frame
    (frame.format.shapes frame.width.toNat frame.height.toNat) = .error cause) (m : Media) :
    surfaceOfHost context frame m =
      (.error (.refused (.format cause)), (m.makeSurface .host (.ofPixelFormat frame.format)
        frame.width frame.height []).2.release (m.makeSurface .host (.ofPixelFormat frame.format)
        frame.width frame.height []).1) := by
  simp only [surfaceOfHost, if_neg known, allocation_host context known columns rows, if_pos fits,
    refused]

end

section
variable (host : frame.payload = none) (columns : frame.width ≠ 0) (rows : frame.height ≠ 0)
include host columns rows

theorem toSurface_ok_iff (w : World) :
    (∃ s, (toSurface context frame w).1 = .ok s) ↔
      SurfaceFormat.ofPixelFormat frame.format ≠ .unknown ∧
        (SurfaceFormat.ofPixelFormat frame.format).Fits frame.width.toNat frame.height.toNat ∧
        frame.Sampled := by
  rw [sampled_iff host]
  by_cases known : SurfaceFormat.ofPixelFormat frame.format ≠ .unknown
  · by_cases fits :
        (SurfaceFormat.ofPixelFormat frame.format).Fits frame.width.toNat frame.height.toNat
    · cases looked : upload frame (frame.format.shapes frame.width.toNat frame.height.toNat) with
      | ok planes =>
        simp [toSurface, host, surfaceOfHost_ok context known columns rows fits looked, known, fits]
      | error cause =>
        simp [toSurface, host, surfaceOfHost_refused context known columns rows fits looked]
    · simp [toSurface_tooLarge context known columns rows fits host, fits]
  · simp [toSurface, host, surfaceOfHost, not_not.1 known]

theorem toSurface_error {w v : World} {failure : Failure Error}
    (failed : toSurface context frame w = (.error failure, v)) :
    ((∃ cause, failure = .refused (.format cause)) ∨
      (failure = .broken .tooLarge ∧ SurfaceFormat.ofPixelFormat frame.format ≠ .unknown ∧
        ¬(SurfaceFormat.ofPixelFormat frame.format).Fits frame.width.toNat frame.height.toNat)) ∧
      v.media.live = w.media.live ∧ ∀ s, v.media.holders s = w.media.holders s := by
  have arrived := toSurface_arrives context frame w
  rw [failed] at arrived
  cases arrived with
  | unread _ uploads =>
    generalize same : (Except.error failure : Attempt Error Surface) = result at uploads
    cases uploads with
    | unknown =>
      cases same
      exact ⟨.inl ⟨_, rfl⟩, rfl, fun _ => rfl⟩
    | unallocated known lacking =>
      rw [allocation_host context known columns rows] at lacking
      split at lacking
      case isTrue => cases lacking
      case isFalse large =>
        cases lacking
        cases same
        exact ⟨.inr ⟨rfl, known, large⟩, rfl, fun _ => rfl⟩
    | unfilled =>
      cases same
      exact ⟨.inl ⟨_, rfl⟩, Media.live_release_makeSurface ..,
        Media.holders_release_makeSurface _ _ _ _ _⟩
    | filled => cases same
  | slice payload | lost payload | foreign payload =>
    rw [host] at payload
    cases payload

theorem toSurface_tooLarge_iff (w : World) :
    (toSurface context frame w).1 = .error (.broken .tooLarge) ↔
      SurfaceFormat.ofPixelFormat frame.format ≠ .unknown ∧
        ¬(SurfaceFormat.ofPixelFormat frame.format).Fits frame.width.toNat frame.height.toNat := by
  constructor
  · intro broken
    obtain ⟨⟨_, ⟨⟩⟩ | ⟨-, large⟩, -⟩ :=
      toSurface_error context host columns rows (Prod.ext broken rfl)
    exact large
  · rintro ⟨known, large⟩
    rw [toSurface_tooLarge context known columns rows large host]

end

theorem copyToSurface_eq (host : frame.payload = none)
    (columns : 1 ≤ frame.width.toNat ∧ frame.width.toNat ≤ 2147483647)
    (rows : 1 ≤ frame.height.toNat ∧ frame.height.toNat ≤ 2147483647)
    (words : ∀ slot ∈ (frame.format.shapes frame.width.toNat frame.height.toNat).zip frame.planes,
      slot.2.linesize * slot.1.rows + slot.1.rowBytes < UInt64.size) (w : World) :
    copyToSurface context frame w = toSurface context frame w := by
  have width_ne := ne_zero_of_toNat_pos columns.1
  have height_ne := ne_zero_of_toNat_pos rows.1
  by_cases known : SurfaceFormat.ofPixelFormat frame.format ≠ .unknown
  · by_cases fits :
        (SurfaceFormat.ofPixelFormat frame.format).Fits frame.width.toNat frame.height.toNat
    · have zeros := (w.media.has_makeSurface .host (.ofPixelFormat frame.format) frame.width
        frame.height ((frame.format.shapes frame.width.toNat frame.height.toNat).map
          Plane.zero)).planes_eq
      have copied := copyFrame_eq frame columns.2 rows.2 words
      simp only [copyToSurface, if_neg known, Media.allocSurface,
        allocation_host context known width_ne height_ne, if_pos fits, Except.map, zeros, copied]
      cases looked : upload frame (frame.format.shapes frame.width.toNat frame.height.toNat) with
      | ok planes =>
        simp only [toSurface, host, surfaceOfHost_ok context known width_ne height_ne fits looked,
          Attempt.ofExcept, Media.setPlanes_makeSurface]
        rfl
      | error cause =>
        simp only [toSurface, host, Attempt.ofExcept, Failure.map, Media.release_makeSurface,
          surfaceOfHost_refused context known width_ne height_ne fits looked]
    · rw [toSurface_tooLarge context known width_ne height_ne fits host]
      simp only [copyToSurface, if_neg known, Media.allocSurface,
        allocation_host context known width_ne height_ne, if_neg fits]
      rfl
  · simp only [copyToSurface, toSurface, host, surfaceOfHost, if_pos (not_not.1 known)]

section
variable (sampled : frame.Sampled) (known : SurfaceFormat.ofPixelFormat frame.format ≠ .unknown)
  (columns : frame.width ≠ 0) (rows : frame.height ≠ 0)
  (fits : (SurfaceFormat.ofPixelFormat frame.format).Fits frame.width.toNat frame.height.toNat)
include sampled known columns rows fits

theorem toFrame_toSurface (w : World) {s : Surface} {v : World}
    (accepted : toSurface context frame w = (.ok s, v)) {pool : FramePool}
    (same : pool.desc.format = frame.format) :
    ∃ out u, toFrame pool s v = (.ok out, u) ∧ out.format = frame.format ∧
      out.width = frame.width ∧ out.height = frame.height ∧
      List.Forall₂ FramePlane.Tight (frame.format.shapes frame.width.toNat frame.height.toNat)
        out.planes ∧
      List.Forall₂ Plane.SameRows frame.viewed out.viewed := by
  let made := w.media.makeSurface .host (.ofPixelFormat frame.format) frame.width frame.height
    (uploadedPlanes frame)
  have taken := surfaceOfHost_sampled context sampled known columns rows fits w.media
  simp only [toSurface, sampled.payload_eq, taken, Prod.mk.injEq, Except.ok.injEq] at accepted
  obtain ⟨rfl, rfl⟩ := accepted
  have layout : made.1.format = .ofPixelFormat frame.format := Media.format_makeSurface ..
  have has : (made.2.setPts made.1 frame.pts).Has made.1 (uploadedPlanes frame) :=
    (Media.has_makeSurface ..).setPts made.1 frame.pts
  have laid : made.1.format.Laid frame.width.toNat frame.height.toNat (uploadedPlanes frame) :=
    layout ▸ laid_uploadedPlanes sampled known
  have fills : List.Forall₂ Plane.Fills
      (frame.format.shapes frame.width.toNat frame.height.toNat) (uploadedPlanes frame) :=
    fills_uploaded sampled.count
  let out : Frame :=
    { format := frame.format, width := frame.width, height := frame.height
      planes := List.zipWith downloaded
        (frame.format.shapes frame.width.toNat frame.height.toNat) (uploadedPlanes frame)
      pool := some pool }
  have frame_eq : hostFrame pool made.1 (made.2.setPts made.1 frame.pts) = .ok out := by
    rw [hostFrame_eq pool (layout.trans (by rw [same])) (layout ▸ known) has laid
      (layout ▸ fits), same]
    rfl
  have host : pool.desc.format.isHardware = false := by
    rw [same]
    revert known
    cases frame.format <;> decide
  refine ⟨out, _, (toFrame_host host ..).trans (congrArg (·, _) frame_eq), rfl, rfl, rfl,
    tight_zipWith_downloaded fills.length_eq, ?_⟩
  exact Conversion.forall₂_through (fun _ _ _ first second => first.trans second)
    (sameRows_uploaded sampled.large) (sameRows_downloaded fills)

end

/-- A frame gets a surface exactly if its format has one, there is room for it, and the rows of all
planes of the frame are there. Row by row, no step of the copy is out of range. A frame that is not
brought over leaves no surface behind; it is refused for its format or its planes, unless it is too
large. A frame of the same format that is made from the surface has the same rows, without padding. -/
theorem hostFrame_carried (host : frame.payload = none)
    (columns : 1 ≤ frame.width.toNat ∧ frame.width.toNat ≤ 2147483647)
    (rows : 1 ≤ frame.height.toNat ∧ frame.height.toNat ≤ 2147483647)
    (words : ∀ slot ∈ (frame.format.shapes frame.width.toNat frame.height.toNat).zip frame.planes,
      slot.2.linesize * slot.1.rows + slot.1.rowBytes < UInt64.size) (w : World) :
    let shapes := frame.format.shapes frame.width.toNat frame.height.toNat
    let layout := SurfaceFormat.ofPixelFormat frame.format
    let arrived := toSurface context frame w
    ((∃ s, arrived.1 = .ok s) ↔
      layout ≠ .unknown ∧ layout.Fits frame.width.toNat frame.height.toNat ∧
      shapes.length ≤ frame.planes.length ∧ ∀ slot ∈ shapes.zip frame.planes,
        slot.1.rowBytes ≤ slot.2.linesize ∧
          slot.2.linesize * (slot.1.rows - 1) + slot.1.rowBytes ≤ slot.2.data.size) ∧
    (arrived.1 = .error (.broken .tooLarge) ↔
      layout ≠ .unknown ∧ ¬layout.Fits frame.width.toNat frame.height.toNat) ∧
    copyToSurface context frame w = arrived ∧
    (∀ failure, arrived.1 = .error failure →
      (failure = .broken .tooLarge ∨ ∃ cause, failure = .refused (.format cause)) ∧
      arrived.2.media.live = w.media.live ∧
      ∀ s, arrived.2.media.holders s = w.media.holders s) ∧
    ∀ s, arrived.1 = .ok s → ∀ pool : FramePool, pool.desc.format = frame.format →
      ∃ out u, toFrame pool s arrived.2 = (.ok out, u) ∧ out.format = frame.format ∧
        out.width = frame.width ∧ out.height = frame.height ∧
        List.Forall₂ FramePlane.Tight shapes out.planes ∧
        List.Forall₂ Plane.SameRows frame.viewed out.viewed := by
  intro shapes layout arrived
  have width_ne := ne_zero_of_toNat_pos columns.1
  have height_ne := ne_zero_of_toNat_pos rows.1
  have accepted := toSurface_ok_iff context host width_ne height_ne w
  refine ⟨?_, toSurface_tooLarge_iff context host width_ne height_ne w,
    copyToSurface_eq context host columns rows words w, ?_, ?_⟩
  · rw [accepted, sampled_iff host, upload_ok_iff]
    simp only [holds_iff, shapes, layout]
  · intro failure failed
    obtain ⟨cause, account⟩ :=
      toSurface_error context host width_ne height_ne (Prod.ext failed rfl)
    exact ⟨cause.symm.imp And.left id, account⟩
  · intro s result pool same
    obtain ⟨known, fits, sampled⟩ := accepted.1 ⟨s, result⟩
    exact toFrame_toSurface context sampled known width_ne height_ne fits w
      (Prod.ext result rfl) same

/-- Rows of five and of three bytes, of which four and two are meaningful, come back without the
padding between them. -/
theorem padded_carried :
    let context : DeviceContext := ⟨"software", .dx11⟩
    let pool : FramePool := ⟨⟨0⟩, ⟨.yuv420p, .yuv420p, 4, 2⟩, .native .d3d11va 9⟩
    ∃ s v out u, toSurface context ScaleFilter.paddedFrame .empty = (.ok s, v) ∧
      toFrame pool s v = (.ok out, u) ∧
      List.Forall₂ Plane.SameRows ScaleFilter.paddedFrame.viewed out.viewed := by
  intro context pool
  have host : ScaleFilter.paddedFrame.payload = none := rfl
  obtain ⟨accepted, -, -, -, back⟩ :=
    hostFrame_carried context host (by decide) (by decide) (by decide) .empty
  obtain ⟨s, result⟩ := accepted.2 ⟨by decide, by decide, by decide, by decide⟩
  obtain ⟨out, u, made, -, -, -, -, same⟩ := back s result pool rfl
  exact ⟨s, _, out, u, Prod.ext result rfl, made, same⟩

/-- A frame of the greatest size has no plane, but what breaks off is the making of its surface. -/
theorem emptyFrame_tooLarge :
    let frame : Frame := { format := .bgra, width := 2147483647, height := 2147483647 }
    frame.planes.length < (frame.format.shapes frame.width.toNat frame.height.toNat).length ∧
      toSurface ⟨"software", .host⟩ frame .empty = (.error (.broken .tooLarge), .empty) := by
  intro frame
  exact ⟨by decide,
    toSurface_tooLarge _ (by decide) (by decide) (by decide) (by decide) rfl .empty⟩

end Bridge

end VideoScaler
