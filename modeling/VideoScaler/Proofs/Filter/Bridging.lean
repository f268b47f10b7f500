import VideoScaler.Proofs.Filter.HostFrame
import VideoScaler.Proofs.Filter.Payload
import VideoScaler.Proofs.Surface.Content

/-! Results that cannot be handed out as native pictures.

A link is accepted whatever the memory is in which the converter works. The memory is looked at
when the first result is to become a frame of a native interface, and only then is it refused.
-/

set_option autoImplicit false

namespace VideoScaler

/-- Does a frame come with what its format stands for: a surface that is there and has room for
the picture, a native picture, or all samples? -/
def Frame.Pictured (layout : SurfaceFormat) (x : Frame) (w : World) : Prop :=
  match x.format with
  | .amf => ∃ buffer s planes, x.payload = some (.amf buffer) ∧ w.held? buffer = some s ∧
      s.format = layout ∧ (w.media.surfaces.get? s.ref).isSome = true ∧ w.media.Has s planes ∧
      layout.Laid s.width.toNat s.height.toNat planes ∧ x.width ≤ s.width ∧ x.height ≤ s.height
  | .d3d11 => ∃ texture index, x.payload = some (.d3d11 texture index)
  | .dxva2 => ∃ picture, x.payload = some (.dxva2 picture)
  | _ => x.Sampled

structure InputLink.Brings (link : InputLink) (x : Frame) (w : World) : Prop where
  format_eq : x.format = link.format
  width_eq : x.width = link.width
  height_eq : x.height = link.height
  pictured : x.Pictured (.ofPixelFormat link.layout) w

/-- Does the context for a link make no native pictures? It is that of the pool of the frames, or
else one of the filter's own, which works in host memory. With a bound device no native frames are
handed out, so that its memory does not matter. -/
def InputLink.LacksNative (link : InputLink) (device : Option Device) : Prop :=
  match link.pool, device with
  | some pool, _ => ∃ context, DeviceContext.derive softwareRuntime pool.device = .ok context ∧
      context.memory ≠ .dx11 ∧ context.memory ≠ .dx9
  | none, some _ => False
  | none, none => True

/-- Are native frames asked for where none can be made, on a link whose own frames get as far as to
be scaled? Native frames do not, in such a context. -/
structure InputLink.Unbridged (link : InputLink) (device : Option Device)
    (outFormat : PixelFormat) : Prop where
  native : outFormat = .d3d11 ∨ outFormat = .dxva2
  lacks : link.LacksNative device
  foreign : link.format ≠ .d3d11 ∧ link.format ≠ .dxva2

namespace Bridge

variable {context : DeviceContext} {x : Frame} {w : World} {memory : MemoryType}
  {format : PixelFormat} {pool : FramePool} {s : Surface}

/-! ### What is said about the memory, and where -/

theorem uploadPlanes_ne_memoryForOutput (of : PixelFormat) (i : Nat) (shapes : List Format.Shape)
    (planes : List FramePlane) :
    uploadPlanes of i shapes planes ≠ .error (.memoryForOutput memory format) := by
  induction shapes generalizing i planes with
  | nil => simp [uploadPlanes]
  | cons shape shapes ih =>
    cases planes with
    | nil => simp [uploadPlanes]
    | cons plane planes =>
      intro refused
      simp only [uploadPlanes] at refused
      split at refused
      · cases rest : uploadPlanes of (i + 1) shapes planes with
        | error e =>
          rw [rest] at refused
          cases refused
          exact ih (i + 1) planes rest
        | ok planes =>
          rw [rest] at refused
          cases refused
      · cases refused

theorem upload_ne_memoryForOutput (x : Frame) (shapes : List Format.Shape) :
    upload x shapes ≠ .error (.memoryForOutput memory format) := by
  unfold upload
  split
  · intro refused
    cases refused
  · exact uploadPlanes_ne_memoryForOutput _ _ _ _

theorem toSurface_ne_memoryForOutput :
    (toSurface context x w).1 ≠ .error (.refused (.format (.memoryForOutput memory format))) := by
  intro refused
  have arrived := toSurface_arrives context x w
  generalize toSurface context x w = result at arrived refused
  cases arrived with
  | slice _ wraps => cases wraps <;> cases refused
  | @unread failure _ _ uploads =>
    obtain rfl : failure = _ := Except.error.inj refused
    generalize same : (Except.error (Failure.refused _) : Attempt Error Surface) = result at uploads
    cases uploads with
    | @unallocated cause => cases cause <;> cases same
    | unfilled _ _ failed =>
      cases same
      exact upload_ne_memoryForOutput _ _ failed
    | unknown | filled => cases same
  | _ => cases refused

theorem download_ne_memoryForOutput (shapes : List Format.Shape) (planes : List Plane) (i : Nat) :
    download shapes planes i ≠ .error (.refused (.memoryForOutput memory format)) := by
  induction shapes generalizing planes i with
  | nil => simp [download]
  | cons shape shapes ih =>
    cases planes with
    | nil => simp [download]
    | cons plane planes =>
      intro refused
      simp only [download] at refused
      by_cases fit : Bytes.Fit [shape.bytes]
      · rw [Attempt.room_of_fit fit] at refused
        cases first : downloadPlane? shape plane with
        | none =>
          rw [first] at refused
          cases refused
        | some copy =>
          rw [first] at refused
          cases rest : download shapes planes (i + 1) with
          | error failure =>
            rw [rest] at refused
            cases refused
            exact ih planes (i + 1) rest
          | ok copies =>
            rw [rest] at refused
            cases refused
      · rw [Attempt.room_of_not_fit fit] at refused
        cases refused

theorem toFrame_memoryForOutput_iff :
    (∃ memory format, (toFrame pool s w).1
        = .error (.refused (.format (.memoryForOutput memory format)))) ↔
      (pool.desc.format = .d3d11 ∨ pool.desc.format = .dxva2) ∧ nativePayload? s = none := by
  constructor
  · rintro ⟨memory, format, refused⟩
    unfold toFrame at refused
    split at refused
    case h_1 => cases refused
    case h_2 shown =>
      split at refused <;> cases refused
      rename_i nothing
      exact ⟨.inl shown, nothing⟩
    case h_3 shown =>
      split at refused <;> cases refused
      rename_i nothing
      exact ⟨.inr shown, nothing⟩
    case h_4 =>
      unfold hostFrame at refused
      simp only at refused
      split at refused
      · cases refused
      split at refused
      · cases refused
      · rename_i failure failed
        cases failure <;> cases refused
        exact absurd failed (download_ne_memoryForOutput _ _ _)
  · rintro ⟨native | native, nothing⟩ <;>
      exact ⟨s.memory, pool.desc.format, by simp only [toFrame, native, nothing]⟩

theorem nativePayload?_makeSurface_eq_none_iff (m : Media) (of : SurfaceFormat)
    (width height : UInt32) (planes : List Plane) :
    nativePayload? (m.makeSurface memory of width height planes).1 = none ↔
      memory ≠ .dx11 ∧ memory ≠ .dx9 := by
  cases memory <;> simp [Media.makeSurface, Media.addTexture, Media.addDx9, Media.addSurface,
    nativePayload?]

/-! ### Frames of a link -/

theorem toSurface_amf (context : DeviceContext) {buffer : FrameBuffer} {planes : List Plane}
    (payload_eq : x.payload = some (.amf buffer)) (held : w.held? buffer = some s)
    (there : (w.media.surfaces.get? s.ref).isSome = true) (has : w.media.Has s planes) :
    ∃ w₁ state, toSurface context x w = (.ok s, w₁) ∧
      w₁.media.surfaces.get? s.ref = some state ∧
      state.crop = Surface.wholeRect x.width x.height ∧ w₁.media.Has s planes := by
  obtain ⟨state, found⟩ := Option.isSome_iff_exists.1 there
  have presents := (((Media.Presents.of_has has ⟨state, found, rfl, rfl⟩).retain.setCrop
    (Surface.wholeRect x.width x.height)).setPts x.pts)
  obtain ⟨shown, now, crop_eq, -⟩ := presents.there
  refine ⟨{ w with media := mark x s (w.media.retain s) }, shown, ?_, now, crop_eq, presents.has⟩
  simp only [toSurface, payload_eq, held]

end Bridge

theorem eq_amf_of_isHardware {f : PixelFormat} (hardware : f.isHardware = true)
    (foreign : f ≠ .d3d11 ∧ f ≠ .dxva2) : f = .amf := by
  cases f with
  | amf => rfl
  | d3d11 => exact absurd rfl foreign.1
  | dxva2 => exact absurd rfl foreign.2
  | _ => cases hardware

theorem toNat_of_toInt32_pos {n : UInt32} (positive : 0 < n.toInt32) :
    1 ≤ n.toNat ∧ n.toNat ≤ 2147483647 := by
  have signed : 0 < n.toBitVec.toInt := Int32.lt_iff_toInt_lt.1 positive
  rw [BitVec.toInt_eq_toNat_cond] at signed
  have bound := n.toBitVec.isLt
  split at signed <;> simp only [UInt32.toNat_toBitVec] at * <;> omega

namespace Frame

variable {layout : SurfaceFormat} {x : Frame} {w : World}

theorem Pictured.sampled (pictured : x.Pictured layout w) (host : x.format.isHardware = false) :
    x.Sampled := by
  unfold Pictured at pictured
  split at pictured
  case h_1 shown => rw [shown] at host; cases host
  case h_2 shown => rw [shown] at host; cases host
  case h_3 shown => rw [shown] at host; cases host
  case h_4 => exact pictured

end Frame

namespace InputLink

variable {link : InputLink} {x : Frame} {w : World} {context : DeviceContext}

theorem Brings.toSurface_ok (brings : link.Brings x w)
    (foreign : link.format ≠ .d3d11 ∧ link.format ≠ .dxva2)
    (known : SurfaceFormat.ofPixelFormat link.layout ≠ .unknown)
    (columns : 1 ≤ link.width.toNat) (rows : 1 ≤ link.height.toNat)
    (upload : x.payload = none →
      (SurfaceFormat.ofPixelFormat link.layout).Fits x.width.toNat x.height.toNat)
    (context : DeviceContext) :
    ∃ s w₁ state planes width height, Bridge.toSurface context x w = (.ok s, w₁) ∧
      s.format = .ofPixelFormat link.layout ∧ w₁.media.surfaces.get? s.ref = some state ∧
      state.crop = Surface.wholeRect link.width link.height ∧ w₁.media.Has s planes ∧
      (SurfaceFormat.ofPixelFormat link.layout).Laid width height planes ∧
      link.width.toNat ≤ width ∧ link.height.toNat ≤ height := by
  have pictured := brings.pictured
  cases hardware : link.format.isHardware with
  | true =>
    have amf : x.format = .amf := brings.format_eq.trans (eq_amf_of_isHardware hardware foreign)
    simp only [Frame.Pictured, amf] at pictured
    obtain ⟨buffer, s, planes, payload_eq, held, format_eq, there, has, laid, wide, high⟩ :=
      pictured
    obtain ⟨w₁, state, surface, found, crop_eq, kept⟩ :=
      Bridge.toSurface_amf context payload_eq held there has
    rw [brings.width_eq, brings.height_eq] at crop_eq
    rw [brings.width_eq] at wide
    rw [brings.height_eq] at high
    exact ⟨s, w₁, state, planes, _, _, surface, format_eq, found, crop_eq, kept, laid,
      UInt32.le_iff_toNat_le.1 wide, UInt32.le_iff_toNat_le.1 high⟩
  | false =>
    have layout_eq : link.layout = x.format := by
      rw [brings.format_eq, ScaleFilter.layout_of_host hardware]
    have sampled := pictured.sampled (by rw [brings.format_eq, hardware])
    rw [layout_eq] at known upload ⊢
    rw [← brings.width_eq] at columns ⊢
    rw [← brings.height_eq] at rows ⊢
    obtain ⟨s, w₁, state, surface, format_eq, found, crop_eq, has⟩ :=
      Bridge.toSurface_sampled context sampled known
        (ne_zero_of_toNat_pos columns)
        (ne_zero_of_toNat_pos rows) (upload sampled.payload_eq) w
    exact ⟨s, w₁, state, _, _, _, surface, format_eq, found, crop_eq, has,
      Bridge.laid_uploadedPlanes sampled known, Nat.le_refl _, Nat.le_refl _⟩

theorem Brings.layout_of_payload (brings : link.Brings x w) (host : x.payload = none) :
    link.layout = x.format := by
  have pictured := brings.pictured
  rw [brings.format_eq]
  refine ScaleFilter.layout_of_host ?_
  rw [← brings.format_eq]
  cases shown : x.format with
  | amf | d3d11 | dxva2 => simp [Frame.Pictured, shown, host] at pictured
  | _ => rfl

theorem Brings.memory_of_toSurface {s : Surface} {w₁ : World} (brings : link.Brings x w)
    (surface : Bridge.toSurface context x w = (.ok s, w₁)) :
    (link.format = .d3d11 → context.memory = .dx11) ∧
      (link.format = .dxva2 → context.memory = .dx9) := by
  have pictured := brings.pictured
  constructor
  · intro shown
    rw [← brings.format_eq] at shown
    simp only [Frame.Pictured, shown] at pictured
    obtain ⟨texture, index, payload_eq⟩ := pictured
    have wraps := Bridge.toSurface_wraps payload_eq context w
    rw [surface] at wraps
    cases wraps with
    | wrapped _ native => exact native
  · intro shown
    rw [← brings.format_eq] at shown
    simp only [Frame.Pictured, shown] at pictured
    obtain ⟨picture, payload_eq⟩ := pictured
    by_contra other
    simp only [Bridge.toSurface, payload_eq, Media.wrapDx9, ne_eq, other, not_false_eq_true,
      if_true] at surface
    cases surface

end InputLink

theorem Agreement.lacksNative_iff {link : InputLink} {device : Option Device}
    {outFormat : PixelFormat} {setup : Setup} {output : OutputLink} {c : Converter}
    (agreement : Agreement link device outFormat setup output c) :
    ((output.pool.desc.format = .d3d11 ∨ output.pool.desc.format = .dxva2) ∧
        setup.source.context.memory ≠ .dx11 ∧ setup.source.context.memory ≠ .dx9) ↔
      (outFormat = .d3d11 ∨ outFormat = .dxva2) ∧ link.LacksNative device := by
  have follows := agreement.follows
  rw [agreement.pool_eq]
  unfold InputLink.LacksNative
  cases link_eq : link.pool with
  | some pool =>
    obtain ⟨context, frames, source_eq, derived, yields⟩ := follows.of_inputPool link_eq
    simp only [source_eq, ContextSource.outputPool, ContextSource.context, yields.format_eq]
    refine and_congr_right fun _ => ⟨fun memory => ⟨context, derived, memory⟩, ?_⟩
    rintro ⟨_, derivedAgain, memory⟩
    rw [derived] at derivedAgain
    cases derivedAgain
    exact memory
  | none =>
    simp only [Setup.Follows, link_eq] at follows
    cases device with
    | some device =>
      -- On a bound device all frames live on the accelerator.
      obtain ⟨context, frames, source_eq, -, yields⟩ := follows
      simp [source_eq, ContextSource.outputPool, yields.format_eq]
    | none =>
      obtain ⟨context, frames, source_eq, created, yields⟩ := follows
      cases created
      simp [source_eq, ContextSource.outputPool, ContextSource.context, yields.format_eq]

namespace ScaleFilter

variable {f g : ScaleFilter Converter} {link : InputLink} {outFormat : PixelFormat}
  {setup : Setup} {output : OutputLink} {c : Converter} {w v u : World} {input : Frame}

theorem configure_size_pos
    (configured : f.configure softwareRuntime link outFormat w = (.ok output, g, v)) :
    0 < link.width.toInt32 ∧ 0 < link.height.toInt32 := by
  unfold configure at configured
  split at configured
  · cases configured
  · simp only at configured
    split at configured
    · cases configured
    case h_2 ready => exact Converter.size_pos_of_configure (Prod.ext ready rfl)

theorem configOutput_size_pos
    (accepted : f.configOutput softwareRuntime link outFormat w = (.ok output, g, v)) :
    0 < link.width.toInt32 ∧ 0 < link.height.toInt32 := by
  unfold configOutput at accepted
  split at accepted
  · cases accepted
  · exact configure_size_pos accepted

theorem Serves.filterFrame_memoryForOutput_iff {device : Option Device}
    (serves : f.Serves setup output c)
    (agreement : Agreement link device outFormat setup output c) :
    (∃ memory format, (f.filterFrame input u).1
        = .error (.refused (.format (.memoryForOutput memory format)))) ↔
      (∃ s w₁ made m, Bridge.toSurface setup.source.context input u = (.ok s, w₁) ∧
        c.accept (.surface s) w₁.media = (.ok made, m)) ∧
      (outFormat = .d3d11 ∨ outFormat = .dxva2) ∧ link.LacksNative device := by
  rw [← agreement.lacksNative_iff]
  unfold ScaleFilter.filterFrame
  rw [serves.convert_eq agreement.ready.pending_eq]
  rcases surface : Bridge.toSurface setup.source.context input u with ⟨e | s, w₁⟩
  · refine iff_of_false ?_ ?_
    · rintro ⟨memory, format, refused⟩
      obtain rfl : e = _ := Except.error.inj refused
      exact Bridge.toSurface_ne_memoryForOutput (congrArg Prod.fst surface)
    · rintro ⟨⟨_, _, _, _, taken, -⟩, -⟩
      cases taken
  rcases accepted : c.accept (.surface s) w₁.media with ⟨failure | made, m⟩
  · refine iff_of_false ?_ ?_
    · rintro ⟨memory, format, refused⟩
      simp only [accepted] at refused
      cases failure <;> cases refused
    · rintro ⟨⟨_, _, _, _, taken, made⟩, -⟩
      cases taken
      rw [accepted] at made
      cases made
  obtain ⟨planes, rfl⟩ := Converter.made_of_accept agreement.ready accepted
  rw [and_iff_right ⟨s, w₁, _, m, rfl, accepted⟩,
    ← Bridge.nativePayload?_makeSurface_eq_none_iff w₁.media _ _ _ planes,
    ← Bridge.toFrame_memoryForOutput_iff]
  simp only [accepted]
  -- What the last step says of the result is what the filter says of the frame.
  generalize Bridge.toFrame output.pool _ _ = framed
  obtain ⟨failure | frame, w₂⟩ := framed
  · exact Iff.rfl
  · exact iff_of_false (by rintro ⟨_, _, ⟨⟩⟩) (by rintro ⟨_, _, ⟨⟩⟩)

section
variable {device : Option Device} (serves : f.Serves setup output c)
  (agreement : Agreement link device outFormat setup output c)
  (columns : 1 ≤ link.width.toNat ∧ link.width.toNat ≤ 2147483647)
  (rows : 1 ≤ link.height.toNat ∧ link.height.toNat ≤ 2147483647) (brings : link.Brings input u)
include agreement columns rows brings

/-- A frame of a link that is no native one is converted exactly if there is room for it. -/
theorem converted_iff (foreign : link.format ≠ .d3d11 ∧ link.format ≠ .dxva2) :
    (∃ s w₁ made m, Bridge.toSurface setup.source.context input u = (.ok s, w₁) ∧
        c.accept (.surface s) w₁.media = (.ok made, m)) ↔
      input.HasRoom (.ofPixelFormat link.layout) (.ofPixelFormat output.pool.desc.swFormat)
        output.size := by
  have readable := agreement.readable
  rw [agreement.layout_eq] at readable
  by_cases upload : input.payload = none →
      (SurfaceFormat.ofPixelFormat link.layout).Fits input.width.toNat input.height.toNat
  · obtain ⟨s, w₁, state, planes, width, height, surface, format_eq, found, crop_eq, has, laid,
      wider, higher⟩ :=
        brings.toSurface_ok foreign readable columns.1 rows.1 upload setup.source.context
    rw [← agreement.layout_eq] at format_eq laid
    constructor
    · rintro ⟨_, _, made, m, surfaceAgain, taken⟩
      rw [surface] at surfaceAgain
      cases surfaceAgain
      by_contra large
      have refused := Converter.accept_tooLarge agreement.ready agreement.readable
        agreement.writable agreement.follows.size_ne format_eq found crop_eq has laid wider higher
        columns rows fun room => large ⟨upload, room.1, by
          rw [← agreement.layout_eq, brings.width_eq, brings.height_eq]
          exact room.2⟩
      rw [taken] at refused
      cases refused
    · rintro ⟨-, fits, samples⟩
      rw [← agreement.layout_eq, brings.width_eq, brings.height_eq] at samples
      obtain ⟨made, m, _, taken, -⟩ := Converter.accept_inside agreement.ready agreement.readable
        agreement.writable agreement.follows.size_ne format_eq found crop_eq has laid wider higher
        columns rows fits samples
      exact ⟨s, w₁, made, m, surface, taken⟩
  · refine iff_of_false ?_ fun room => upload room.upload
    obtain ⟨host, large⟩ := Classical.not_imp.1 upload
    rw [brings.layout_of_payload host] at readable large
    rintro ⟨s, w₁, made, m, surface, -⟩
    have broken := Bridge.toSurface_tooLarge setup.source.context readable
      (by rw [brings.width_eq]; exact ne_zero_of_toNat_pos columns.1)
      (by rw [brings.height_eq]; exact ne_zero_of_toNat_pos rows.1)
      large host u
    rw [broken] at surface
    cases surface

include serves

theorem Serves.filterFrame_unbridged_iff :
    (∃ memory format, (f.filterFrame input u).1
        = .error (.refused (.format (.memoryForOutput memory format)))) ↔
      link.Unbridged device outFormat ∧
        input.HasRoom (.ofPixelFormat link.layout) (.ofPixelFormat output.pool.desc.swFormat)
          output.size := by
  rw [serves.filterFrame_memoryForOutput_iff agreement]
  constructor
  · rintro ⟨taken, native, lacks⟩
    obtain ⟨-, texture, picture⟩ := agreement.lacksNative_iff.2 ⟨native, lacks⟩
    obtain ⟨s, w₁, made, m, surface, -⟩ := id taken
    have memory := brings.memory_of_toSurface surface
    have foreign : link.format ≠ .d3d11 ∧ link.format ≠ .dxva2 :=
      ⟨fun shown => texture (memory.1 shown), fun shown => picture (memory.2 shown)⟩
    exact ⟨⟨native, lacks, foreign⟩, (converted_iff agreement columns rows brings foreign).1 taken⟩
  · rintro ⟨⟨native, lacks, foreign⟩, room⟩
    exact ⟨(converted_iff agreement columns rows brings foreign).2 room, native, lacks⟩

end

/-- Whether native frames can be made shows only when a frame is scaled. A link is accepted also
where they cannot, and then every frame of the link for which there is room is refused for the
memory; on all other links none is. -/
theorem filterFrame_memory_refused_iff
    (accepted : f.configOutput softwareRuntime link outFormat w = (.ok output, g, v))
    (earlier : List (Frame × World)) (brings : link.Brings input u) :
    (∃ memory format, ((g.afterFrames earlier).filterFrame input u).1
        = .error (.refused (.format (.memoryForOutput memory format)))) ↔
      link.Unbridged f.device outFormat ∧
        input.HasRoom (.ofPixelFormat link.layout) (.ofPixelFormat output.pool.desc.swFormat)
          output.size := by
  obtain ⟨-, -, setup, c, serves, agreement⟩ := configOutput_ok accepted
  obtain ⟨later, -⟩ := serves.afterFrames agreement.ready.pending_eq earlier
  obtain ⟨wide, high⟩ := configOutput_size_pos accepted
  exact later.filterFrame_unbridged_iff agreement (toNat_of_toInt32_pos wide)
    (toNat_of_toInt32_pos high) brings

theorem dxva2Frame_not_refused : ∃ output g v,
    (⟨.new, none, {}, none⟩ : ScaleFilter Converter).configOutput softwareRuntime dxva2Link
      .dxva2 .empty = (.ok output, g, v) ∧
    dxva2Link.Brings dxva2Frame dxva2World ∧
    ¬∃ memory format, ((g.afterFrames []).filterFrame dxva2Frame dxva2World).1
      = .error (.refused (.format (.memoryForOutput memory format))) := by
  obtain ⟨output, g, v, out, h, u', accepted, -⟩ := dxva2Frame_scaled (.inr rfl)
  have brings : dxva2Link.Brings dxva2Frame dxva2World := ⟨rfl, rfl, rfl, _, rfl⟩
  refine ⟨output, g, v, accepted, brings, fun refused => ?_⟩
  have unbridged := ((filterFrame_memory_refused_iff accepted [] brings).1 refused).1
  exact unbridged.foreign.2 rfl

/-- A filter without a device accepts a link between host memory and native frames, and then refuses
the first frame. -/
theorem nv12Frame_refused : ∃ (f g : ScaleFilter Converter) (output : OutputLink) (v : World),
    ScaleFilter.init {} none = .ok f ∧
    f.configOutput softwareRuntime { format := .nv12, width := 4, height := 2 } .d3d11 .empty
      = (.ok output, g, v) ∧
    InputLink.Brings { format := .nv12, width := 4, height := 2 } (.blank .nv12 4 2) .empty ∧
    ∃ memory format, (g.filterFrame (.blank .nv12 4 2) .empty).1
      = .error (.refused (.format (.memoryForOutput memory format))) := by
  have accepted : ∃ output g v, (⟨.new, none, {}, none⟩ : ScaleFilter Converter).configOutput
      softwareRuntime { format := .nv12, width := 4, height := 2 } .d3d11 .empty
        = (.ok output, g, v) ∧ output.size = ⟨4, 2⟩ ∧
          output.pool = ⟨⟨0⟩, ⟨.d3d11, .nv12, 4, 2⟩, .accelerator ⟨"software", .host⟩⟩ :=
    configOutput_planned rfl rfl
      (plan_of_resolve (Dimensions.resolve_four_by_two Ratio.unset .nv12 .nv12) rfl) rfl rfl
  obtain ⟨output, g, v, accepted, size_eq, pool_eq⟩ := accepted
  have room : (Frame.blank .nv12 4 2).HasRoom (.ofPixelFormat .nv12)
      (.ofPixelFormat output.pool.desc.swFormat) output.size := by
    rw [size_eq, pool_eq]
    decide
  have sampled : (Frame.blank .nv12 4 2).Sampled := ⟨rfl, by decide, by decide⟩
  have brings : InputLink.Brings { format := .nv12, width := 4, height := 2 }
      (.blank .nv12 4 2) .empty := ⟨rfl, rfl, rfl, sampled⟩
  obtain ⟨-, -, setup, c, serves, agreement⟩ := configOutput_ok accepted
  refine ⟨_, g, output, v, ?_, accepted, brings, ?_⟩
  · rw [ScaleFilter.init, Dimensions.validate_default]
    rfl
  · exact (serves.filterFrame_unbridged_iff agreement (by decide) (by decide) brings).2
      ⟨⟨.inl rfl, trivial, by decide, by decide⟩, room⟩

end ScaleFilter

end VideoScaler
