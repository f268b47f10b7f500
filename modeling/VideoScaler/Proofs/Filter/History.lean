import VideoScaler.Proofs.Filter.Appearance
import VideoScaler.Proofs.Filter.Refusal

/-! The result for a frame does not depend on the frames before it.

What a filter makes of a frame is fixed by its output link and by what the frame shows at that
moment. Two histories that leave the same pictures behind give the same error, or frames
that show the same; which surfaces and buffers stand behind them may differ.
-/

set_option autoImplicit false

namespace VideoScaler

/-- Do two attempts fail alike, or succeed with results that are related? -/
def Agree {ε α β : Type} (related : α → β → Prop) : Except ε α → Except ε β → Prop
  | .ok a, .ok b => related a b
  | .error e, .error d => e = d
  | _, _ => False

theorem map_eq_of_agree {ε α β γ : Type} {a : Except ε α} {b : Except ε β} {p : α → γ} {q : β → γ}
    (agree : Agree (fun a b => p a = q b) a b) : a.map p = b.map q := by
  cases a <;> cases b <;> simp only [Agree] at agree
  · exact congrArg Except.error agree
  · exact congrArg Except.ok agree

namespace Bridge

variable {context : DeviceContext} {w w₁ w₂ : World} {x x₁ x₂ : Frame} {m m₁ m₂ : Media}
  {s s₁ s₂ : Surface}

/-- Do two surfaces look the same, be they in one world or in two? -/
def Alike (m₁ : Media) (s₁ : Surface) (m₂ : Media) (s₂ : Surface) : Prop :=
  ∃ content crop pts, m₁.Presents s₁ content crop pts ∧ m₂.Presents s₂ content crop pts

theorem Alike.of_presents {c₁ c₂ : SurfaceContent} {crop₁ crop₂ : Rect} {pts₁ pts₂ : Int64}
    (presents₁ : m₁.Presents s₁ c₁ crop₁ pts₁) (presents₂ : m₂.Presents s₂ c₂ crop₂ pts₂)
    (content_eq : c₁ = c₂) (crop_eq : crop₁ = crop₂) (pts_eq : pts₁ = pts₂) :
    Alike m₁ s₁ m₂ s₂ := by
  subst content_eq crop_eq pts_eq
  exact ⟨_, _, _, presents₁, presents₂⟩

theorem presents_mark {content : SurfaceContent} {crop : Rect} {pts : Int64}
    (presents : m.Presents s content crop pts) (x : Frame) :
    (mark x s m).Presents s content (Surface.wholeRect x.width x.height) x.pts :=
  (presents.setCrop _).setPts _

/-! ### To the surface -/

theorem presents_slice {texture : Texture} {index : Nat} {planes : List Plane}
    (slice : m.slice? texture index = some planes) (guid : Guid) (data : Bytes) :
    let wrapped := (m.setPrivateData texture guid data).addSurface .dx11 texture.format
      texture.width texture.height (.slice texture index) [] true
    wrapped.2.Presents wrapped.1 ⟨.dx11, texture.format, texture.width, texture.height, planes⟩
      (Surface.wholeRect texture.width texture.height) 0 := by
  refine Media.presents_addSurface (show Media.Has _ _ planes from ?_)
  rw [← Media.slice?_setPrivateData m texture guid data] at slice
  exact slice

theorem presents_picture {picture : Dx9Surface} {planes : List Plane}
    (there : m.dx9.get? picture.ref = some planes) :
    let wrapped := m.addSurface .dx9 picture.format picture.width picture.height (.dx9 picture)
      [] true
    wrapped.2.Presents wrapped.1 ⟨.dx9, picture.format, picture.width, picture.height, planes⟩
      (Surface.wholeRect picture.width picture.height) 0 :=
  Media.presents_addSurface (show Media.Has _ _ planes from there)

section
variable (known₁ : w₁.Knows x₁) (known₂ : w₂.Knows x₂) (same : w₁.content x₁ = w₂.content x₂)
include same

theorem fields_eq : x₁.format = x₂.format ∧ x₁.width = x₂.width ∧ x₁.height = x₂.height ∧
    x₁.pts = x₂.pts ∧ x₁.sar = x₂.sar ∧ x₁.color = x₂.color ∧ x₁.metadata = x₂.metadata ∧
      x₁.planes = x₂.planes ∧
        x₁.payload.map w₁.payloadContent = x₂.payload.map w₂.payloadContent := by
  simpa only [World.content, FrameContent.mk.injEq] using same

theorem toSurface_agree_host (host₁ : x₁.payload = none) (host₂ : x₂.payload = none) :
    Agree (fun s₁ s₂ => Alike (toSurface context x₁ w₁).2.media s₁
      (toSurface context x₂ w₂).2.media s₂)
      (toSurface context x₁ w₁).1 (toSurface context x₂ w₂).1 := by
  obtain ⟨format_eq, width_eq, height_eq, pts_eq, -, -, -, planes_eq, -⟩ := fields_eq same
  have upload_eq : upload x₁ = upload x₂ := by
    funext shapes
    simp only [upload, format_eq, planes_eq]
  simp only [toSurface, host₁, host₂, surfaceOfHost, format_eq, width_eq, height_eq, upload_eq]
  by_cases unknown : SurfaceFormat.ofPixelFormat x₂.format = .unknown
  · simp only [unknown, if_true]
    rfl
  simp only [unknown, if_false]
  cases Media.allocation context.memory .host (.ofPixelFormat x₂.format) x₂.width x₂.height with
  | error status => rfl
  | ok shapes =>
    cases filled : upload x₂ shapes with
    | error e =>
      simp only [filled]
      rfl
    | ok planes =>
      simp only [filled, pts_eq]
      exact ⟨_, _, _, (Media.presents_makeSurface ..).setPts _,
        (Media.presents_makeSurface ..).setPts _⟩

include known₁ known₂ in
theorem toSurface_agree (context : DeviceContext) :
    Agree (fun s₁ s₂ => Alike (toSurface context x₁ w₁).2.media s₁
      (toSurface context x₂ w₂).2.media s₂)
      (toSurface context x₁ w₁).1 (toSurface context x₂ w₂).1 := by
  obtain ⟨-, width_eq, height_eq, pts_eq, -, -, -, -, payload_eq⟩ := fields_eq same
  have part_eq : Surface.wholeRect x₁.width x₁.height = Surface.wholeRect x₂.width x₂.height := by
    rw [width_eq, height_eq]
  -- The frames refer to pictures of the same kind, as these would not look the same otherwise.
  rcases payload₁ : x₁.payload with _ | ⟨buffer₁ | ⟨texture₁, index₁⟩ | picture₁⟩ <;>
    rcases payload₂ : x₂.payload with _ | ⟨buffer₂ | ⟨texture₂, index₂⟩ | picture₂⟩ <;>
      simp only [payload₁, payload₂, Option.map_none, Option.map_some, Option.some.injEq,
        World.payloadContent, reduceCtorEq] at payload_eq
  case none.none => exact toSurface_agree_host same payload₁ payload₂
  case some.amf.some.amf =>
    simp only [PayloadContent.amf.injEq] at payload_eq
    simp only [toSurface, payload₁, payload₂]
    rcases held₁ : w₁.held? buffer₁ with _ | s₁ <;> rcases held₂ : w₂.held? buffer₂ with _ | s₂ <;>
      simp only [held₁, held₂, Option.map_none, Option.map_some, Option.some.injEq,
        reduceCtorEq] at payload_eq
    · rfl
    · obtain ⟨_, crop₁, pts₁, presents₁⟩ :=
        known₁.presents (by simp [Frame.buffers, payload₁]) held₁
      obtain ⟨_, crop₂, pts₂, presents₂⟩ :=
        known₂.presents (by simp [Frame.buffers, payload₂]) held₂
      rw [presents₁.content_eq, presents₂.content_eq] at payload_eq
      exact .of_presents (presents_mark presents₁.retain x₁) (presents_mark presents₂.retain x₂)
        payload_eq part_eq pts_eq
  case some.d3d11.some.d3d11 =>
    simp only [PayloadContent.d3d11.injEq] at payload_eq
    obtain ⟨format_eq, textureWidth_eq, textureHeight_eq, rfl, slice_eq⟩ := payload_eq
    simp only [toSurface, payload₁, payload₂]
    by_cases beyond : indexLimit < index₁
    · simp only [if_pos beyond]
      rfl
    have within : index₁ < 2147483648 := by
      unfold indexLimit at beyond
      omega
    simp only [if_neg beyond, Media.wrapTexture_setPrivateData _ _ _ within, slice_eq]
    by_cases other : context.memory ≠ .dx11
    · simp only [if_pos other]
      rfl
    simp only [if_neg other]
    cases slice : w₂.media.slice? texture₂ index₁ with
    | none => rfl
    | some planes =>
      rw [slice] at slice_eq
      refine .of_presents (presents_mark (presents_slice slice_eq _ _) x₁)
        (presents_mark (presents_slice slice _ _) x₂) ?_ part_eq pts_eq
      rw [format_eq, textureWidth_eq, textureHeight_eq]
  case some.dxva2.some.dxva2 =>
    simp only [PayloadContent.dxva2.injEq] at payload_eq
    obtain ⟨format_eq, pictureWidth_eq, pictureHeight_eq, planes_eq⟩ := payload_eq
    simp only [toSurface, payload₁, payload₂, Media.wrapDx9]
    by_cases other : context.memory ≠ .dx9
    · simp only [if_pos other]
      rfl
    simp only [if_neg other]
    obtain ⟨planes₁, there₁⟩ := Option.isSome_iff_exists.1 (known₁.picture _ payload₁)
    obtain ⟨planes₂, there₂⟩ := Option.isSome_iff_exists.1 (known₂.picture _ payload₂)
    simp only [there₁, there₂, Option.getD_some] at planes_eq
    refine .of_presents (presents_mark (presents_picture there₁) x₁)
      (presents_mark (presents_picture there₂) x₂) ?_ part_eq pts_eq
    rw [format_eq, pictureWidth_eq, pictureHeight_eq, planes_eq]

end

end Bridge

namespace Converter

variable {c : Converter} {memory : MemoryType} {source target : SurfaceFormat} {size : Resolution}
  {m m₁ m₂ : Media} {s s₁ s₂ : Surface} {content : SurfaceContent} {crop : Rect} {pts : Int64}

/-- What an idle converter makes of a surface depends on what the surface shows. -/
theorem accept_of_presents (ready : c.Ready memory source target size)
    (presents : m.Presents s content crop pts) :
    c.accept (.surface s) m =
      if content.format ≠ source then (.error (.refused .invalidFormat), m)
      else
        match target.allocation size.width size.height with
        | .error failure => (.error failure, m)
        | .ok shapes =>
          let made := m.makeSurface memory target size.width size.height (shapes.map Plane.zero)
          match Conversion.convertWithin c.parameters content.planes content.format crop target
              size.width.toNat size.height.toNat with
          | .error failure =>
            (.error (failure.map fun _ => Status.fail), made.2.release made.1)
          | .ok planes => (.ok made.1, (made.2.setPlanes made.1 planes).setPts made.1 pts) := by
  have format_eq : s.format = content.format := congrArg SurfaceContent.format presents.content_eq
  rw [accept_eq ready, format_eq]
  split
  · rfl
  cases target.allocation size.width size.height with
  | error failure => rfl
  | ok shapes =>
    have later := presents.makeSurface memory target size.width size.height (shapes.map Plane.zero)
    cases result : Conversion.convertWithin c.parameters content.planes content.format crop target
      size.width.toNat size.height.toNat <;>
        simp only [later.planes_eq, later.crop_eq, later.pts_eq, result]

theorem presents_result (presents : m.Presents s content crop pts) (memory : MemoryType)
    (format : SurfaceFormat) (width height : UInt32) (zeros planes : List Plane) :
    let made := m.makeSurface memory format width height zeros
    (((made.2.setPlanes made.1 planes).setPts made.1 pts).release s).Presents made.1
      ⟨memory, format, width, height, planes⟩ (Surface.wholeRect width height) pts := by
  obtain ⟨state, found, -⟩ := presents.there
  have other := Media.makeSurface_ne_of_some found memory format width height zeros
  exact (((Media.presents_makeSurface m memory format width height zeros).setPlanes planes).setPts
    pts).release other.symm

theorem accept_agree (ready : c.Ready memory source target size)
    (alike : Bridge.Alike m₁ s₁ m₂ s₂) :
    Agree (fun made₁ made₂ => Bridge.Alike ((c.accept (.surface s₁) m₁).2.release s₁) made₁
      ((c.accept (.surface s₂) m₂).2.release s₂) made₂)
      (c.accept (.surface s₁) m₁).1 (c.accept (.surface s₂) m₂).1 := by
  obtain ⟨content, crop, pts, presents₁, presents₂⟩ := alike
  simp only [accept_of_presents ready presents₁, accept_of_presents ready presents₂]
  by_cases other : content.format ≠ source
  · simp only [if_pos other]
    rfl
  simp only [if_neg other]
  cases target.allocation size.width size.height with
  | error failure => rfl
  | ok shapes =>
    simp only
    cases Conversion.convertWithin c.parameters content.planes content.format crop target
        size.width.toNat size.height.toNat with
    | error failure => rfl
    | ok planes => exact ⟨_, _, _, presents_result presents₁ .., presents_result presents₂ ..⟩

end Converter

namespace Bridge

variable {pool : FramePool} {x x₁ x₂ : Frame} {w w₁ w₂ : World} {made made₁ made₂ : Surface}
  {m₁ m₂ : Media} {content : SurfaceContent} {crop : Rect} {pts : Int64}

/-! ### From the surface -/

/-- Are the buffers of a frame there, without any of them holding this surface? -/
def Apart (w : World) (x : Frame) (s : Surface) : Prop :=
  ∀ b ∈ x.buffers, ∃ state, w.buffers.get? b = some state ∧
    ∀ t, state.surface = some t → t.ref ≠ s.ref

theorem Apart.known (apart : Apart w x made) (b : FrameBuffer) (member : b ∈ x.buffers) :
    (w.buffers.get? b).isSome = true := by
  obtain ⟨state, found, -⟩ := apart b member
  exact Option.isSome_of_eq_some found

theorem Apart.presents (apart : Apart w x made) (pool : FramePool)
    (presents : w.media.Presents made content crop pts) :
    ((((w.newFrame pool).2.addBuffer made true).2).dropFrame x).media.Presents made content crop
      pts := by
  refine World.presents_dropFrame presents fun b member s held => ?_
  obtain ⟨state, found, others⟩ := apart b member
  have kept := Arena.get?_add_of_some found ⟨some made, 1, true, 0⟩
  exact others s (by simpa only [World.held?, World.addBuffer, World.newFrame, kept,
    Option.bind_some] using held)

theorem Apart.held (apart : Apart w x made) (pool : FramePool) :
    ((((w.newFrame pool).2.addBuffer made true).2).dropFrame x).held?
      ((w.newFrame pool).2.addBuffer made true).1 = some made :=
  World.held?_addBuffer_dropFrame (w := (w.newFrame pool).2) apart.known made true

theorem hostFrame_agree (pool : FramePool) (alike : Alike m₁ made₁ m₂ made₂) :
    hostFrame pool made₁ m₁ = hostFrame pool made₂ m₂ := by
  obtain ⟨content, crop, pts, presents₁, presents₂⟩ := alike
  have same := presents₁.content_eq.trans presents₂.content_eq.symm
  simp only [Media.content, SurfaceContent.mk.injEq] at same
  obtain ⟨-, format_eq, width_eq, height_eq, planes_eq⟩ := same
  simp only [hostFrame, format_eq, width_eq, height_eq, planes_eq]

def nativeContent (format : SurfaceFormat) (width height : UInt32) (planes : List Plane) :
    MemoryType → Option PayloadContent
  | .dx11 => some (.d3d11 format width height 0 (some planes))
  | .dx9 => some (.dxva2 format width height planes)
  | _ => none

theorem payloadContent_makeSurface {n : Media} {memory : MemoryType} {format : SurfaceFormat}
    {width height : UInt32} {zeros : List Plane}
    (presents : w.media.Presents (n.makeSurface memory format width height zeros).1 content crop
      pts) :
    (nativePayload? (n.makeSurface memory format width height zeros).1).map w.payloadContent =
      nativeContent format width height content.planes memory := by
  have has := presents.has
  cases memory with
  | dx11 =>
    simp only [Media.Has, Media.makeSurface, Media.addSurface, Media.addTexture] at has
    simp only [nativePayload?, Media.makeSurface, Media.addSurface, Media.addTexture,
      Option.map_some, World.payloadContent, has, nativeContent]
  | dx9 =>
    simp only [Media.Has, Media.makeSurface, Media.addSurface, Media.addDx9] at has
    simp only [nativePayload?, Media.makeSurface, Media.addSurface, Media.addDx9,
      Option.map_some, World.payloadContent, has, Option.getD_some, nativeContent]
  | _ => rfl

section
variable (apart₁ : Apart w₁ x₁ made₁) (apart₂ : Apart w₂ x₂ made₂)
  (alike : Alike w₁.media made₁ w₂.media made₂)

/-- Do the frames that two surfaces are made into look the same, once the inputs are dropped? -/
def FramedAlike (pool : FramePool) (x₁ : Frame) (made₁ : Surface) (w₁ : World) (x₂ : Frame)
    (made₂ : Surface) (w₂ : World) : Prop :=
  Agree (fun frame₁ frame₂ => ((toFrame pool made₁ w₁).2.dropFrame x₁).content frame₁
    = ((toFrame pool made₂ w₂).2.dropFrame x₂).content frame₂)
    (toFrame pool made₁ w₁).1 (toFrame pool made₂ w₂).1

include alike

theorem framedAlike_host (host : pool.desc.format.isHardware = false) :
    FramedAlike pool x₁ made₁ w₁ x₂ made₂ w₂ := by
  unfold FramedAlike
  simp only [toFrame_host host, hostFrame_agree pool alike]
  cases framed : hostFrame pool made₂ w₂.media with
  | error failure => rfl
  | ok frame =>
    -- A frame in host memory looks the same in every world.
    have payload_eq : frame.payload = none :=
      (toFrame_host_ok host (by rw [toFrame_host host, framed])).1
    simp only [Agree, World.content, payload_eq, Option.map_none]

theorem framedAlike_native (format_eq : pool.desc.format = .d3d11 ∨ pool.desc.format = .dxva2)
    (native : (nativePayload? made₁).map
        (((w₁.newFrame pool).2.addBuffer made₁ true).2.dropFrame x₁).payloadContent
      = (nativePayload? made₂).map
        (((w₂.newFrame pool).2.addBuffer made₂ true).2.dropFrame x₂).payloadContent) :
    FramedAlike pool x₁ made₁ w₁ x₂ made₂ w₂ := by
  obtain ⟨content, crop, pts, presents₁, presents₂⟩ := alike
  have memory_eq : made₁.memory = made₂.memory :=
    congrArg SurfaceContent.memory (presents₁.content_eq.trans presents₂.content_eq.symm)
  unfold FramedAlike
  rcases payload₁ : nativePayload? made₁ with _ | picture₁ <;>
    rcases payload₂ : nativePayload? made₂ with _ | picture₂ <;>
      simp only [payload₁, payload₂, Option.map_none, Option.map_some, Option.some.injEq,
        reduceCtorEq] at native <;>
        rcases format_eq with format_eq | format_eq <;>
          simp only [toFrame, format_eq, payload₁, payload₂, Agree, memory_eq, World.content,
            Option.map_some, native] <;>
            rfl

include apart₁ apart₂

theorem framedAlike_amf (format_eq : pool.desc.format = .amf) :
    FramedAlike pool x₁ made₁ w₁ x₂ made₂ w₂ := by
  obtain ⟨content, crop, pts, presents₁, presents₂⟩ := alike
  unfold FramedAlike
  simp only [toFrame, format_eq, Agree, World.content, Option.map_some, World.payloadContent,
    apart₁.held pool, apart₂.held pool, (apart₁.presents pool presents₁).content_eq,
    (apart₂.presents pool presents₂).content_eq]
  rfl

theorem toFrame_agree {n₁ n₂ : Media} {memory : MemoryType} {format : SurfaceFormat}
    {width height : UInt32} {zeros₁ zeros₂ : List Plane}
    (made₁_eq : made₁ = (n₁.makeSurface memory format width height zeros₁).1)
    (made₂_eq : made₂ = (n₂.makeSurface memory format width height zeros₂).1) :
    FramedAlike pool x₁ made₁ w₁ x₂ made₂ w₂ := by
  by_cases native : pool.desc.format = .d3d11 ∨ pool.desc.format = .dxva2
  · refine framedAlike_native alike native ?_
    obtain ⟨content, crop, pts, presents₁, presents₂⟩ := alike
    have shown₁ := apart₁.presents pool presents₁
    have shown₂ := apart₂.presents pool presents₂
    subst made₁_eq made₂_eq
    exact (payloadContent_makeSurface shown₁).trans (payloadContent_makeSurface shown₂).symm
  cases shown : pool.desc.format with
  | amf => exact framedAlike_amf apart₁ apart₂ alike shown
  | d3d11 => exact absurd (.inl shown) native
  | dxva2 => exact absurd (.inr shown) native
  | _ => exact framedAlike_host alike (by rw [shown]; rfl)

end

/-! ### The surfaces of the input -/

theorem extends_mark (x : Frame) (s : Surface) (m : Media) : m.Extends (mark x s m) :=
  (Media.extends_modifySurface m s _).trans (Media.extends_modifySurface _ s _)

theorem extends_toSurface (context : DeviceContext) (x : Frame) (w : World) :
    w.media.Extends (toSurface context x w).2.media := by
  have arrived := toSurface_arrives context x w
  generalize toSurface context x w = result at arrived ⊢
  cases arrived with
  | slice _ wraps =>
    cases wraps with
    | beyond => exact .refl _
    | refused => exact Media.extends_setPrivateData ..
    | wrapped =>
      exact (Media.extends_setPrivateData ..).trans
        ((Media.extends_addSurface ..).trans (extends_mark ..))
  | lost | foreign => exact .refl _
  | shared => exact (Media.extends_modifySurface ..).trans (extends_mark ..)
  | picture => exact (Media.extends_addSurface ..).trans (extends_mark ..)
  | unread _ uploads =>
    cases uploads with
    | unknown | unallocated => exact .refl _
    | unfilled => exact (Media.extends_makeSurface ..).trans (Media.extends_release _ _)
  | copied _ uploads =>
    cases uploads
    exact (Media.extends_makeSurface ..).trans (Media.extends_modifySurface ..)

theorem apart_makeSurface (known : w.Knows x) (context : DeviceContext) (m : Media)
    (memory : MemoryType) (format : SurfaceFormat) (width height : UInt32) (planes : List Plane) :
    Apart { (toSurface context x w).2 with media := m } x
      ((toSurface context x w).2.media.makeSurface memory format width height planes).1 := by
  intro b member
  obtain ⟨state, found, there⟩ := known.buffers b member
  refine ⟨state, by rw [buffers_toSurface, found], fun t held => ?_⟩
  obtain ⟨_, _, _, presents⟩ := there t held
  obtain ⟨_, before, -⟩ := presents.there
  obtain ⟨_, still⟩ := Option.isSome_iff_exists.1
    ((extends_toSurface context x w).there t.ref (Option.isSome_of_eq_some before))
  exact (Media.makeSurface_ne_of_some still memory format width height planes).symm

end Bridge

namespace Converter

variable {c : Converter}

theorem accept_ne_inputFull (idle : c.pending = none) (d : Data) (m : Media) :
    (c.accept d m).1 ≠ .error (.refused .inputFull) :=
  fun full => ((accept_eq_inputFull_iff d m).1 full).2 idle

theorem submit_ne_inputFull (idle : c.pending = none) (d : Data) (m : Media) :
    (c.submit d m).1 ≠ .error (.refused .inputFull) :=
  fun full => accept_ne_inputFull idle d m ((submit_error_iff d m _).1 full)

end Converter

namespace ScaleFilter

variable {f f₁ f₂ g : ScaleFilter Converter} {setup : Setup} {output : OutputLink} {c : Converter}
  {link : InputLink} {device : Option Device} {outFormat : PixelFormat} {x x₁ x₂ : Frame}
  {w w₁ w₂ v : World}

/-- What a filter makes of a frame: a failure, or what can be seen of the frame that it hands
out, once the input has been given up. -/
def shown (f : ScaleFilter Converter) (x : Frame) (w : World) : Attempt Error FrameContent :=
  (f.filterFrame x w).1.map (f.filterFrame x w).2.2.content

theorem content_finishFrame (config : ScaleConfig) (output : OutputLink)
    (same : w₁.content x₁ = w₂.content x₂) {v₁ v₂ : World} {frame₁ frame₂ : Frame}
    (framed : v₁.content frame₁ = v₂.content frame₂) :
    v₁.content (finishFrame config output x₁ frame₁)
      = v₂.content (finishFrame config output x₂ frame₂) := by
  obtain ⟨-, width_eq, height_eq, pts_eq, sar_eq, color_eq, metadata_eq, -, -⟩ :=
    Bridge.fields_eq same
  obtain ⟨-, -, -, -, -, -, -, planes_eq, payload_eq⟩ := Bridge.fields_eq framed
  simp only [World.content, finishFrame, Frame.copyProperties, width_eq, height_eq, pts_eq,
    sar_eq, color_eq, metadata_eq, planes_eq, payload_eq]

/-- Two filters that serve one link make the same of frames that look the same. -/
theorem Serves.shown_eq (serves₁ : f₁.Serves setup output c) (serves₂ : f₂.Serves setup output c)
    (agreement : Agreement link device outFormat setup output c) (config_eq : f₁.config = f₂.config)
    (known₁ : w₁.Knows x₁) (known₂ : w₂.Knows x₂) (same : w₁.content x₁ = w₂.content x₂) :
    f₁.shown x₁ w₁ = f₂.shown x₂ w₂ := by
  have ready := agreement.ready
  refine map_eq_of_agree ?_
  unfold ScaleFilter.filterFrame
  simp only [serves₁.convert_eq ready.pending_eq, serves₂.convert_eq ready.pending_eq]
  have brought := Bridge.toSurface_agree known₁ known₂ same setup.source.context
  have apart₁ := Bridge.apart_makeSurface known₁ setup.source.context
  have apart₂ := Bridge.apart_makeSurface known₂ setup.source.context
  -- At each of the three steps the runs either fail alike or go on alike.
  rcases surface₁ : Bridge.toSurface setup.source.context x₁ w₁ with ⟨e₁ | s₁, u₁⟩ <;>
    rcases surface₂ : Bridge.toSurface setup.source.context x₂ w₂ with ⟨e₂ | s₂, u₂⟩ <;>
      simp only [surface₁, surface₂] at brought apart₁ apart₂ ⊢
  case error.error => exact brought
  case error.ok => exact False.elim brought
  case ok.error => exact False.elim brought
  have converted := Converter.accept_agree ready brought
  rcases taken₁ : c.accept (.surface s₁) u₁.media with ⟨failure₁ | made₁, m₁⟩ <;>
    rcases taken₂ : c.accept (.surface s₂) u₂.media with ⟨failure₂ | made₂, m₂⟩ <;>
      simp only [taken₁, taken₂] at converted ⊢
  case error.error => exact congrArg (Failure.map (Error.operation "SubmitInput")) converted
  case error.ok => exact False.elim converted
  case ok.error => exact False.elim converted
  obtain ⟨zeros₁, made₁_eq⟩ := Converter.made_of_accept ready taken₁
  obtain ⟨zeros₂, made₂_eq⟩ := Converter.made_of_accept ready taken₂
  have framed : Bridge.FramedAlike output.pool x₁ made₁ { u₁ with media := m₁.release s₁ } x₂ made₂
      { u₂ with media := m₂.release s₂ } :=
    Bridge.toFrame_agree (made₁_eq ▸ apart₁ _ _ _ _ _ _) (made₂_eq ▸ apart₂ _ _ _ _ _ _) converted
      made₁_eq made₂_eq
  unfold Bridge.FramedAlike at framed
  rcases framed₁ : Bridge.toFrame output.pool made₁ { u₁ with media := m₁.release s₁ }
    with ⟨failure₁ | frame₁, v₁⟩ <;>
    rcases framed₂ : Bridge.toFrame output.pool made₂ { u₂ with media := m₂.release s₂ }
      with ⟨failure₂ | frame₂, v₂⟩ <;>
        simp only [framed₁, framed₂] at framed ⊢
  case error.error => exact framed
  case error.ok => exact False.elim framed
  case ok.error => exact False.elim framed
  rw [config_eq]
  exact content_finishFrame f₂.config output same framed

/-- Is nothing left over of the frames before, so that the converter takes a surface in and
hands out its result when it is asked for the first time? -/
def Clear (f : ScaleFilter Converter) : Prop :=
  ∃ c, f.scaler.component = some c ∧ c.pending = none ∧
    (∀ d m, (c.submit d m).1 ≠ .error (.refused .inputFull)) ∧
    ∀ d m, (c.submit d m).1 = .ok () →
      isNotReady ((c.submit d m).2.1.query (c.submit d m).2.2).1 = false

theorem Serves.clear (serves : f.Serves setup output c) (idle : c.pending = none) :
    f.Clear :=
  ⟨c, serves.component_eq, idle, Converter.submit_ne_inputFull idle, fun d m taken =>
    Converter.isNotReady_query_of_isSome (c.isSome_pending_of_submit d m taken) _⟩

theorem Serves.filterFrame_ne_inputFull (serves : f.Serves setup output c) (idle : c.pending = none)
    (x : Frame) (w : World) :
    (f.filterFrame x w).1 ≠ .error (.refused (.operation "SubmitInput" .inputFull)) := by
  unfold ScaleFilter.filterFrame
  simp only [serves.convert_eq idle]
  intro refused
  split at refused
  case h_1 e _ brought =>
    -- An error of bringing the picture over is none of an operation.
    cases refused
    exact Bridge.isOfPictures_of_toSurface (congrArg Prod.fst brought)
  split at refused
  case h_1 failure _ taken =>
    refine Converter.accept_ne_inputFull idle _ _ (congrArg Prod.fst taken |>.trans ?_)
    cases failure <;> cases refused
    rfl
  split at refused
  case h_1 failure _ framed =>
    cases refused
    exact Bridge.isOfPictures_of_toFrame (congrArg Prod.fst framed)
  case h_2 => cases refused

/-- Once an output link is accepted, what is made of a frame does not depend on the frames
before it, and none of them leaves anything behind in the converter. -/
theorem filterFrame_history
    (accepted : f.configOutput softwareRuntime link outFormat w = (.ok output, g, v)) :
    (∀ (earlier₁ earlier₂ : List (Frame × World)) (x₁ x₂ : Frame) (w₁ w₂ : World),
      w₁.Knows x₁ → w₂.Knows x₂ → w₁.content x₁ = w₂.content x₂ →
        (g.afterFrames earlier₁).shown x₁ w₁ = (g.afterFrames earlier₂).shown x₂ w₂) ∧
      ∀ earlier : List (Frame × World), (g.afterFrames earlier).Clear ∧
        ∀ x w, ((g.afterFrames earlier).filterFrame x w).1
          ≠ .error (.refused (.operation "SubmitInput" .inputFull)) := by
  obtain ⟨-, -, setup, c, serves, agreement⟩ := configOutput_ok accepted
  have idle := agreement.ready.pending_eq
  refine ⟨fun earlier₁ earlier₂ x₁ x₂ w₁ w₂ known₁ known₂ same => ?_, fun earlier => ?_⟩
  · obtain ⟨later₁, config₁⟩ := serves.afterFrames idle earlier₁
    obtain ⟨later₂, config₂⟩ := serves.afterFrames idle earlier₂
    exact later₁.shown_eq later₂ agreement (config₁.trans config₂.symm) known₁ known₂ same
  · obtain ⟨later, -⟩ := serves.afterFrames idle earlier
    exact ⟨later.clear idle, later.filterFrame_ne_inputFull idle⟩

theorem dxva2Frame_history :
    ∃ output g v, (⟨.new, none, {}, none⟩ : ScaleFilter Converter).configOutput softwareRuntime
        dxva2Link .dxva2 .empty = (.ok output, g, v) ∧
      dxva2World.Knows dxva2Frame ∧
      (g.afterFrames [({ dxva2Frame with payload := none }, .empty), (dxva2Frame, dxva2World)]).shown
          dxva2Frame dxva2World
        = (g.afterFrames []).shown dxva2Frame dxva2World := by
  obtain ⟨output, g, v, -, -, -, accepted, -⟩ := dxva2Frame_scaled (.inr rfl)
  have known : dxva2World.Knows dxva2Frame := by
    refine ⟨fun b member => ?_, fun picture payload_eq => ?_⟩
    · cases member
    · cases payload_eq
      rfl
  exact ⟨output, g, v, accepted, known,
    (filterFrame_history accepted).1 _ _ _ _ _ _ known known rfl⟩

end ScaleFilter

end VideoScaler
