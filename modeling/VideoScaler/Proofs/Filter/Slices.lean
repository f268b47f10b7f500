import VideoScaler.Proofs.Filter.History
import VideoScaler.Proofs.Filter.Tagging

/-! Surfaces of the slices of textures, over any number of calls.

A texture has one place for the index of a slice, which every frame of it overwrites. The surface
remembers the slice that it was made for, so that neither another index in that place nor another
surface changes what it shows.
-/

set_option autoImplicit false

namespace VideoScaler

variable {context : DeviceContext} {frame : Frame} {texture : Texture} {index : Nat} {w : World}
  {m : Media} {s : Surface} {content : SurfaceContent} {crop : Rect} {pts : Int64}

theorem Media.slice?_release (m : Media) (s : Surface) (texture : Texture) (index : Nat) :
    (m.release s).slice? texture index = m.slice? texture index := by
  unfold release
  split
  · split <;> rfl
  · rfl

namespace Bridge

theorem presents_mark_addSurface (presents : m.Presents s content crop pts) (memory : MemoryType)
    (format : SurfaceFormat) (width height : UInt32) (backing : Backing) (planes : List Plane)
    (counted : Bool) (frame : Frame) :
    (mark frame (m.addSurface memory format width height backing planes counted).1
      (m.addSurface memory format width height backing planes counted).2).Presents s content crop
        pts := by
  have other := presents.ne_addSurface memory format width height backing planes counted
  exact ((presents.addSurface ..).modifySurface_of_ne other _).modifySurface_of_ne other _

theorem presents_of_uploads (presents : m.Presents s content crop pts)
    {result : Attempt Error Surface} {n : Media} (uploads : Uploads context frame m (result, n)) :
    n.Presents s content crop pts ∧ ∀ made, result = .ok made → made.ref ≠ s.ref := by
  obtain ⟨state, found, -⟩ := presents.there
  cases uploads with
  | unknown | unallocated => exact ⟨presents, by simp⟩
  | unfilled =>
    have other := Media.makeSurface_ne_of_some found .host (.ofPixelFormat frame.format)
      frame.width frame.height []
    exact ⟨(presents.makeSurface ..).release other, by simp⟩
  | filled =>
    refine ⟨presents.makeSurface .., fun made result => ?_⟩
    cases result
    exact Media.makeSurface_ne_of_some found _ _ _ _ _

/-- A frame changes nothing about a surface that is there already, unless it is the buffer of the
frame that holds the surface. -/
theorem presents_toSurface (presents : w.media.Presents s content crop pts)
    (context : DeviceContext) (fresh : ∀ buffer, frame.payload ≠ some (.amf buffer)) :
    (toSurface context frame w).2.media.Presents s content crop pts := by
  have arrived := toSurface_arrives context frame w
  generalize toSurface context frame w = result at arrived ⊢
  cases arrived with
  | @slice texture index _ _ wraps =>
    have told : (w.media.tagged texture index).Presents s content crop pts :=
      presents.setPrivateData ..
    cases wraps with
    | beyond => exact presents
    | refused => exact told
    | wrapped => exact presents_mark_addSurface told ..
  | lost | foreign => exact presents
  | shared payload => exact absurd payload (fresh _)
  | picture => exact presents_mark_addSurface presents ..
  | unread _ uploads => exact (presents_of_uploads presents uploads).1
  | copied _ uploads =>
    obtain ⟨kept, other⟩ := presents_of_uploads presents uploads
    exact kept.modifySurface_of_ne (other _ rfl) _

theorem slice?_toSurface (context : DeviceContext) (frame : Frame) (w : World)
    (texture : Texture) (index : Nat) :
    (toSurface context frame w).2.media.slice? texture index = w.media.slice? texture index := by
  have arrived := toSurface_arrives context frame w
  generalize toSurface context frame w = result at arrived ⊢
  cases arrived with
  | @slice other place _ _ wraps =>
    have told : (w.media.tagged other place).slice? texture index = w.media.slice? texture index :=
      Media.slice?_setPrivateData ..
    cases wraps with
    | beyond => rfl
    | refused => exact told
    | wrapped => exact told
  | unread _ uploads =>
    cases uploads with
    | unknown | unallocated => rfl
    | unfilled => exact Media.slice?_release ..
  | copied _ uploads =>
    cases uploads
    rfl
  | _ => rfl

/-- A surface that is made of a slice is a new one, and shows the slice in the size and at the
time of the frame. -/
theorem presents_of_slice (payload : frame.payload = some (.d3d11 texture index))
    (result : (toSurface context frame w).1 = .ok s) :
    w.media.surfaces.get? s.ref = none ∧ s.backing = .slice texture index ∧
      ∃ planes, w.media.slice? texture index = some planes ∧
        (toSurface context frame w).2.media.Presents s
          ⟨.dx11, texture.format, texture.width, texture.height, planes⟩
          (Surface.wholeRect frame.width frame.height) frame.pts := by
  have outcome := toSurface_wraps payload context w
  generalize toSurface context frame w = arrived at outcome result ⊢
  cases outcome with
  | beyond => cases result
  | refused => cases result
  | wrapped within native slice =>
    cases result
    let state : SurfaceState :=
      ⟨Surface.wholeRect texture.width texture.height, 0, 1, [], true⟩
    exact ⟨w.media.surfaces.get?_add_new state, rfl, _, slice,
      presents_mark (presents_slice slice _ _) frame⟩

def afterSurfaces (calls : List (DeviceContext × Frame)) (w : World) : World :=
  calls.foldl (fun w call => (toSurface call.1 call.2 w).2) w

theorem slice?_afterSurfaces (calls : List (DeviceContext × Frame)) (w : World)
    (texture : Texture) (index : Nat) :
    (afterSurfaces calls w).media.slice? texture index = w.media.slice? texture index := by
  induction calls generalizing w with
  | nil => rfl
  | cons call calls ih => exact (ih _).trans (slice?_toSurface ..)

theorem presents_afterSurfaces (presents : w.media.Presents s content crop pts)
    {calls : List (DeviceContext × Frame)}
    (fresh : ∀ call ∈ calls, ∀ buffer, call.2.payload ≠ some (.amf buffer)) :
    (afterSurfaces calls w).media.Presents s content crop pts := by
  induction calls generalizing w with
  | nil => exact presents
  | cons call calls ih =>
    rw [List.forall_mem_cons] at fresh
    exact ih (presents_toSurface presents call.1 fresh.1) fresh.2

/-- Whatever surfaces were asked for before, a frame of a texture gets a surface exactly if its
slice is there and can be reached. The surface is a new one and shows that slice, in the size and
at the time of the frame. It still does after any other frames have been brought over, and so do
the surfaces that were there before. -/
theorem slices_kept (payload : frame.payload = some (.d3d11 texture index))
    (before : List (DeviceContext × Frame)) {after : List (DeviceContext × Frame)}
    (fresh : ∀ call ∈ after, ∀ buffer, call.2.payload ≠ some (.amf buffer))
    (context : DeviceContext) (w : World) :
    let earlier := afterSurfaces before w
    let arrived := toSurface context frame earlier
    let later := afterSurfaces after arrived.2
    ((∃ s, arrived.1 = .ok s) ↔ context.memory = .dx11 ∧ index ≤ indexLimit ∧
      (w.media.slice? texture index).isSome = true) ∧
    (∀ s, arrived.1 = .ok s →
      earlier.media.surfaces.get? s.ref = none ∧ s.backing = .slice texture index ∧
      some (later.media.planes s) = w.media.slice? texture index ∧
      later.media.crop s = ⟨0, 0, frame.width.toInt32, frame.height.toInt32⟩ ∧
      (frame.width.toNat ≤ 2147483647 → (later.media.crop s).width.toInt = frame.width.toNat) ∧
      (frame.height.toNat ≤ 2147483647 → (later.media.crop s).height.toInt = frame.height.toNat) ∧
      later.media.pts s = frame.pts) ∧
    ∀ t content crop pts, earlier.media.Presents t content crop pts →
      later.media.Presents t content crop pts := by
  intro earlier arrived later
  have stored : earlier.media.slice? texture index = w.media.slice? texture index :=
    slice?_afterSurfaces before w texture index
  refine ⟨?_, fun s result => ?_, fun t content crop pts presents => ?_⟩
  · have outcome := toSurface_wraps payload context earlier
    rw [← stored]
    show (∃ s, (toSurface context frame earlier).1 = .ok s) ↔ _
    generalize toSurface context frame earlier = arrived at outcome ⊢
    cases outcome with
    | beyond high => simp [Nat.not_le_of_lt high]
    | refused status within lacks =>
      refine iff_of_false (fun ⟨s, result⟩ => by cases result) ?_
      rintro ⟨native, -, there⟩
      rcases lacks with foreign | missing
      · exact foreign native
      · rw [missing] at there
        cases there
    | wrapped within native slice => simp [within, native, slice]
  · obtain ⟨new, backing, planes, slice, presents⟩ := presents_of_slice payload result
    have kept := presents_afterSurfaces presents fresh
    refine ⟨new, backing, ?_, kept.crop_eq, fun small => ?_, fun small => ?_, kept.pts_eq⟩
    · rw [← stored, slice, kept.planes_eq]
    · rw [kept.crop_eq]
      exact Conversion.toInt_toInt32 small
    · rw [kept.crop_eq]
      exact Conversion.toInt_toInt32 small
  · exact presents_afterSurfaces (presents_toSurface presents context (by simp [payload])) fresh

def twoSlices : Texture × Media :=
  Media.empty.addTexture 153 .gray8 2 1 [[⟨#[1, 2], 2, 2, 1⟩], [⟨#[3, 4], 2, 2, 1⟩]]

def sliceFrame (index : Nat) (width : UInt32) : Frame where
  format := .d3d11
  width := width
  height := 1
  payload := some (.d3d11 twoSlices.1 index)

/-- The surface of the second slice shows it while the texture is told to show the first one, and
one that is not there. -/
theorem second_slice_kept :
    let context : DeviceContext := ⟨"software", .dx11⟩
    let first := (context, sliceFrame 0 2)
    let missing := (context, sliceFrame 2 2)
    let w : World := ⟨twoSlices.2, .empty, .empty⟩
    let arrived := toSurface context (sliceFrame 1 2) (afterSurfaces [missing, first] w)
    ∃ s, arrived.1 = .ok s ∧
      (afterSurfaces [first, missing] arrived.2).media.planes s = [⟨#[3, 4], 2, 2, 1⟩] := by
  intro context first missing w arrived
  have payload : (sliceFrame 1 2).payload = some (.d3d11 twoSlices.1 1) := rfl
  have fresh : ∀ call ∈ [first, missing], ∀ buffer, call.2.payload ≠ some (.amf buffer) := by
    simp [first, missing, sliceFrame]
  obtain ⟨made, shows, -⟩ := slices_kept payload [missing, first] fresh context w
  obtain ⟨s, result⟩ := made.2 ⟨rfl, by decide, by decide⟩
  obtain ⟨-, -, planes_eq, -⟩ := shows s result
  exact ⟨s, result, Option.some.inj (planes_eq.trans (by decide))⟩

/-- The part to show of a frame that is wider than what 31 bits count has no columns. -/
theorem wide_slice_cropped :
    let w : World := ⟨twoSlices.2, .empty, .empty⟩
    let arrived := toSurface ⟨"software", .dx11⟩ (sliceFrame 0 2147483648) w
    ∃ s, arrived.1 = .ok s ∧ arrived.2.media.crop s = ⟨0, 0, -2147483648, 1⟩ :=
  ⟨_, rfl, by decide⟩

end Bridge

end VideoScaler
