import VideoScaler.Proofs.Dimensions.Default
import VideoScaler.Proofs.Filter.Arrival
import VideoScaler.Proofs.Filter.Samples
import VideoScaler.Proofs.Filter.Serving
import VideoScaler.Proofs.Frame.Buffer

/-! What an output frame carries, against what its format says.

The format of an output frame is that of the pool, the native picture behind it that of the
memory in which the converter works. The two agree but for frames of one native interface
that are asked for as frames of the other one.
-/

set_option autoImplicit false

namespace VideoScaler

namespace World

/-- Is what a frame carries what its format says: a buffer with a surface, a native picture
with a surface behind it, or samples? -/
def Shows (w : World) (f : Frame) : Prop :=
  match f.format with
  | .amf => ∃ buffer, f.payload = some (.amf buffer) ∧ (w.held? buffer).isSome = true
  | .d3d11 => (∃ texture index, f.payload = some (.d3d11 texture index)) ∧
      ∃ buffer, f.backing = some buffer ∧ (w.held? buffer).isSome = true
  | .dxva2 => (∃ picture, f.payload = some (.dxva2 picture)) ∧
      ∃ buffer, f.backing = some buffer ∧ (w.held? buffer).isSome = true
  | _ => f.payload = none ∧ f.planes ≠ []

end World

namespace Bridge

theorem buffers_toSurface (context : DeviceContext) (frame : Frame) (w : World) :
    (toSurface context frame w).2.buffers = w.buffers := by
  have arrived := toSurface_arrives context frame w
  generalize toSurface context frame w = result at arrived ⊢
  cases arrived with
  | slice _ wraps => cases wraps <;> rfl
  | _ => rfl

variable {memory : MemoryType} {made : Surface} {pool : FramePool} {frame out input : Frame}
  {w v : World}

theorem nativePayload?_makeSurface (m : Media) (memory : MemoryType) (format : SurfaceFormat)
    (width height : UInt32) (planes : List Plane) :
    (memory = .dx11 ∧ ∃ texture,
      nativePayload? (m.makeSurface memory format width height planes).1
        = some (.d3d11 texture 0)) ∨
    (memory = .dx9 ∧ ∃ picture,
      nativePayload? (m.makeSurface memory format width height planes).1
        = some (.dxva2 picture)) ∨
    nativePayload? (m.makeSurface memory format width height planes).1 = none := by
  cases memory with
  | dx11 => exact .inl ⟨rfl, _, rfl⟩
  | dx9 => exact .inr (.inl ⟨rfl, _, rfl⟩)
  | _ => exact .inr (.inr rfl)

def Mixed (format : PixelFormat) (memory : MemoryType) : Prop :=
  (format = .d3d11 ∧ memory = .dx9) ∨ (format = .dxva2 ∧ memory = .dx11)

theorem download_length {shapes : List Format.Shape} {planes : List Plane} {i : Nat}
    {copies : List FramePlane} (copied : download shapes planes i = .ok copies) :
    copies.length = shapes.length := by
  induction shapes generalizing planes i copies with
  | nil =>
    simp only [download] at copied
    cases copied
    rfl
  | cons shape shapes ih =>
    cases planes with
    | nil => cases copied
    | cons plane planes =>
      simp only [download] at copied
      obtain ⟨_, -, copied⟩ := bind_ok copied
      obtain ⟨first, -, copied⟩ := bind_ok copied
      obtain ⟨rest, others, copied⟩ := bind_ok copied
      cases copied
      rw [List.length_cons, List.length_cons, ih others]

theorem toFrame_amf_ok (known : ∀ b ∈ input.buffers, (w.buffers.get? b).isSome = true)
    (format_eq : pool.desc.format = .amf) (framed : toFrame pool made w = (.ok frame, v)) :
    ∃ buffer, frame.payload = some (.amf buffer) ∧
      ((v.dropFrame input).held? buffer).isSome = true := by
  simp only [toFrame, format_eq, Prod.mk.injEq, Except.ok.injEq] at framed
  obtain ⟨rfl, rfl⟩ := framed
  have held := World.held?_addBuffer_dropFrame (w := (w.newFrame pool).2) known made true
  exact ⟨_, rfl, Option.isSome_of_eq_some held⟩

theorem toFrame_native_ok (known : ∀ b ∈ input.buffers, (w.buffers.get? b).isSome = true)
    (format_eq : pool.desc.format = .d3d11 ∨ pool.desc.format = .dxva2)
    (framed : toFrame pool made w = (.ok frame, v)) :
    nativePayload? made = frame.payload ∧ frame.payload.isSome = true ∧
      ∃ buffer, frame.backing = some buffer ∧
        ((v.dropFrame input).held? buffer).isSome = true := by
  rcases format_eq with format_eq | format_eq
  all_goals
    simp only [toFrame, format_eq] at framed
    split at framed
    · cases framed
    rename_i payload native
    simp only [Prod.mk.injEq, Except.ok.injEq] at framed
    obtain ⟨rfl, rfl⟩ := framed
    have held := World.held?_addBuffer_dropFrame (w := (w.newFrame pool).2) known made true
    exact ⟨native, rfl, _, rfl, Option.isSome_of_eq_some held⟩

theorem toFrame_host_ok (host : pool.desc.format.isHardware = false)
    (framed : toFrame pool made w = (.ok frame, v)) :
    frame.payload = none ∧ frame.planes ≠ [] := by
  rw [toFrame_host host, Prod.mk.injEq] at framed
  have samples := framed.1
  simp only [hostFrame] at samples
  split at samples
  · cases samples
  split at samples
  case h_2 => cases samples
  case h_1 copies copied =>
    cases samples
    refine ⟨rfl, fun empty => ?_⟩
    -- As many planes are copied as the format has, and only formats on a device have none.
    have length := download_length copied
    simp only at empty
    rw [empty, eq_comm, List.length_nil, List.length_eq_zero_iff,
      PixelFormat.shapes_eq_nil_iff, host] at length
    cases length

theorem toFrame_shows_iff {n : Media} {format : SurfaceFormat} {width height : UInt32}
    {planes : List Plane} (known : ∀ b ∈ input.buffers, (w.buffers.get? b).isSome = true)
    (framed : toFrame pool (n.makeSurface memory format width height planes).1 w = (.ok frame, v))
    (format_eq : out.format = pool.desc.format) (payload_eq : out.payload = frame.payload)
    (backing_eq : out.backing = frame.backing) (planes_eq : out.planes = frame.planes) :
    (v.dropFrame input).Shows out ↔ ¬Mixed pool.desc.format memory := by
  have native := nativePayload?_makeSurface n memory format width height planes
  unfold World.Shows Mixed
  rw [format_eq, payload_eq, backing_eq, planes_eq]
  -- The format is the pool's, the picture that of the memory: nine combinations of the two native
  -- interfaces and the rest, of which a surface without a native picture makes no native frame.
  cases shown : pool.desc.format with
  | amf =>
    have buffer := toFrame_amf_ok known shown framed
    exact iff_of_true buffer (by simp)
  | d3d11 =>
    obtain ⟨same, some, behind⟩ := toFrame_native_ok known (.inl shown) framed
    rw [← same] at some ⊢
    obtain ⟨rfl, texture, native⟩ | ⟨rfl, picture, native⟩ | native := native
    · exact iff_of_true ⟨⟨texture, 0, native⟩, behind⟩ (by simp)
    · refine iff_of_false ?_ (by simp)
      rintro ⟨⟨_, _, other⟩, -⟩
      rw [native] at other
      cases other
    · rw [native] at some
      cases some
  | dxva2 =>
    obtain ⟨same, some, behind⟩ := toFrame_native_ok known (.inr shown) framed
    rw [← same] at some ⊢
    obtain ⟨rfl, texture, native⟩ | ⟨rfl, picture, native⟩ | native := native
    · refine iff_of_false ?_ (by simp)
      rintro ⟨⟨_, other⟩, -⟩
      rw [native] at other
      cases other
    · exact iff_of_true ⟨⟨picture, native⟩, behind⟩ (by simp)
    · rw [native] at some
      cases some
  | _ =>
    have samples := toFrame_host_ok (by rw [shown]; rfl) framed
    exact iff_of_true samples (by simp)

theorem toSurface_dxva2 (context : DeviceContext) {picture : Dx9Surface} {planes : List Plane}
    (payload_eq : input.payload = some (.dxva2 picture)) (memory_eq : context.memory = .dx9)
    (there : w.media.dx9.get? picture.ref = some planes) :
    ∃ s w₁ state, toSurface context input w = (.ok s, w₁) ∧ s.format = picture.format ∧
      w₁.media.surfaces.get? s.ref = some state ∧
      state.crop = Surface.wholeRect input.width input.height ∧ w₁.media.Has s planes := by
  let wrapped := w.media.addSurface .dx9 picture.format picture.width picture.height (.dx9 picture)
    [] true
  have context_eq : ¬context.memory ≠ .dx9 := not_not.2 memory_eq
  refine ⟨wrapped.1, { w with media := mark input wrapped.1 wrapped.2 },
    ⟨Surface.wholeRect input.width input.height, input.pts, 1, [], true⟩, ?_, rfl, ?_, rfl, there⟩
  · simp only [toSurface, payload_eq, Media.wrapDx9, if_neg context_eq]
    rfl
  · simp only [mark, Media.setPts, Media.setCrop, Media.modifySurface, Arena.get?_modify_self,
      wrapped, Media.addSurface, Arena.get?_add_self, Option.map_some]

theorem toFrame_native_total {payload : Payload}
    (format_eq : pool.desc.format = .d3d11 ∨ pool.desc.format = .dxva2)
    (native : nativePayload? made = some payload) (w : World) :
    ∃ frame v, toFrame pool made w = (.ok frame, v) := by
  rcases format_eq with format_eq | format_eq <;> simp only [toFrame, format_eq, native] <;>
    exact ⟨_, _, rfl⟩

end Bridge

/-- Are frames of one native interface asked for on a link whose frames live on a device of the
other one? -/
def InputLink.Crosses (link : InputLink) (outFormat : PixelFormat) : Prop :=
  ∃ pool context, link.pool = some pool ∧
    DeviceContext.derive softwareRuntime pool.device = .ok context ∧
      Bridge.Mixed outFormat context.memory

theorem Agreement.mixed_iff {link : InputLink} {device : Option Device} {outFormat : PixelFormat}
    {setup : Setup} {output : OutputLink} {c : Converter}
    (agreement : Agreement link device outFormat setup output c) :
    Bridge.Mixed output.pool.desc.format setup.source.context.memory ↔ link.Crosses outFormat := by
  have follows := agreement.follows
  rw [agreement.pool_eq]
  unfold InputLink.Crosses
  cases link_eq : link.pool with
  | some pool =>
    obtain ⟨context, frames, source_eq, derived, yields⟩ := follows.of_inputPool link_eq
    simp only [source_eq, ContextSource.outputPool, ContextSource.context, yields.format_eq]
    constructor
    · exact fun mixed => ⟨pool, context, rfl, derived, mixed⟩
    · rintro ⟨_, _, ⟨⟩, derivedAgain, mixed⟩
      rw [derived] at derivedAgain
      cases derivedAgain
      exact mixed
  | none =>
    refine iff_of_false ?_ (by simp)
    simp only [Setup.Follows, link_eq] at follows
    cases device with
    | some device =>
      -- On a bound device all frames live on the accelerator.
      obtain ⟨context, frames, source_eq, -, yields⟩ := follows
      simp [source_eq, ContextSource.outputPool, yields.format_eq, Bridge.Mixed]
    | none =>
      -- The context that the filter makes for itself works in host memory.
      obtain ⟨context, frames, source_eq, created, yields⟩ := follows
      cases created
      simp [source_eq, ContextSource.context, Bridge.Mixed]

namespace ScaleFilter

/-- A frame whose surface shows all of its picture is scaled if there is room for the samples and
its result can be framed. -/
theorem Serves.filterFrame_of_surface {f : ScaleFilter Converter} {link : InputLink}
    {device : Option Device} {outFormat : PixelFormat} {setup : Setup} {output : OutputLink}
    {c : Converter} (serves : f.Serves setup output c)
    (agreement : Agreement link device outFormat setup output c)
    (positive : output.size.width ≠ 0 ∧ output.size.height ≠ 0) {input : Frame} {u w₁ : World}
    {s : Surface} {state : SurfaceState} {planes : List Plane} {w h : UInt32}
    (surface : Bridge.toSurface setup.source.context input u = (.ok s, w₁))
    (format_eq : s.format = .ofPixelFormat setup.layout)
    (found : w₁.media.surfaces.get? s.ref = some state)
    (crop_eq : state.crop = Surface.wholeRect w h) (has : w₁.media.Has s planes)
    (laid : (SurfaceFormat.ofPixelFormat setup.layout).Laid w.toNat h.toNat planes)
    (columns : 1 ≤ w.toNat ∧ w.toNat ≤ 2147483647) (rows : 1 ≤ h.toNat ∧ h.toNat ≤ 2147483647)
    (fits : (SurfaceFormat.ofPixelFormat output.pool.desc.swFormat).Fits output.size.width.toNat
      output.size.height.toNat)
    (room : Conversion.HasRoom (.ofPixelFormat setup.layout)
      (.ofPixelFormat output.pool.desc.swFormat) w.toNat h.toNat output.size.width.toNat
      output.size.height.toNat)
    (framed : ∀ m format width height planes v, ∃ frame v', Bridge.toFrame output.pool
      (Media.makeSurface m setup.source.context.memory format width height planes).1 v
        = (.ok frame, v')) :
    ∃ out g u', f.filterFrame input u = (.ok out, g, u') := by
  obtain ⟨made, m, _, taken, -⟩ := Converter.accept_inside agreement.ready agreement.readable
    agreement.writable positive format_eq found crop_eq has laid (Nat.le_refl _) (Nat.le_refl _)
    columns rows fits room
  obtain ⟨_, rfl⟩ := Converter.made_of_accept agreement.ready taken
  obtain ⟨frame, v', frameOk⟩ := framed _ _ _ _ _ { w₁ with media := m.release s }
  obtain ⟨g, scaled⟩ := (serves.filterFrame_ok_iff agreement.ready.pending_eq).2
    ⟨s, w₁, _, m, frame, v', surface, taken, frameOk, rfl, rfl⟩
  exact ⟨_, g, _, scaled⟩

variable {f g h : ScaleFilter Converter} {link : InputLink} {outFormat : PixelFormat}
  {output : OutputLink} {w v u u' : World} {input out : Frame}

theorem filterFrame_dxva2_ok {pool : FramePool} {context : DeviceContext} {picture : Dx9Surface}
    {planes : List Plane}
    (accepted : f.configOutput softwareRuntime link outFormat w = (.ok output, g, v))
    (link_eq : link.pool = some pool)
    (derived : DeviceContext.derive softwareRuntime pool.device = .ok context)
    (memory_eq : context.memory = .dx9) (native : outFormat = .d3d11 ∨ outFormat = .dxva2)
    (payload_eq : input.payload = some (.dxva2 picture))
    (there : u.media.dx9.get? picture.ref = some planes)
    (format_eq : picture.format = .ofPixelFormat link.layout)
    (laid : (SurfaceFormat.ofPixelFormat link.layout).Laid input.width.toNat input.height.toNat
      planes)
    (columns : 1 ≤ input.width.toNat ∧ input.width.toNat ≤ 2147483647)
    (rows : 1 ≤ input.height.toNat ∧ input.height.toNat ≤ 2147483647)
    (room : input.HasRoom (.ofPixelFormat link.layout) (.ofPixelFormat output.pool.desc.swFormat)
      output.size) :
    ∃ out h u', g.filterFrame input u = (.ok out, h, u') := by
  obtain ⟨-, -, setup, c, serves, agreement⟩ := configOutput_ok accepted
  obtain ⟨_, frames, source_eq, derivedAgain, yields⟩ := agreement.follows.of_inputPool link_eq
  rw [derived] at derivedAgain
  cases derivedAgain
  have pool_eq : output.pool = frames := by rw [agreement.pool_eq, source_eq]; rfl
  have context_eq : setup.source.context = context := by rw [source_eq]; rfl
  obtain ⟨s, w₁, state, surface, shown, found, crop_eq, has⟩ :=
    Bridge.toSurface_dxva2 setup.source.context payload_eq (by rw [context_eq, memory_eq]) there
  refine serves.filterFrame_of_surface agreement ⟨yields.width_ne, yields.height_ne⟩ surface
    (by rw [shown, format_eq, agreement.layout_eq]) found crop_eq has
    (by rwa [agreement.layout_eq]) columns rows room.result
    (by rw [agreement.layout_eq]; exact room.samples) fun m format width height planes v => ?_
  rw [context_eq, memory_eq]
  exact Bridge.toFrame_native_total (by rwa [pool_eq, yields.format_eq]) rfl v

theorem Serves.shows_iff {device : Option Device} {setup : Setup} {c : Converter}
    (serves : f.Serves setup output c) (agreement : Agreement link device outFormat setup output c)
    (held : ∀ b ∈ input.buffers, (u.buffers.get? b).isSome = true)
    (scaled : f.filterFrame input u = (.ok out, g, u')) :
    u'.Shows out ↔ ¬link.Crosses outFormat := by
  obtain ⟨s, w₁, made, m, frame, w₂, surface, taken, framed, rfl, rfl⟩ :=
    (serves.filterFrame_ok_iff agreement.ready.pending_eq).1 ⟨g, scaled⟩
  obtain ⟨planes, rfl⟩ := Converter.made_of_accept agreement.ready taken
  have kept : w₁.buffers = u.buffers := by
    rw [← Bridge.buffers_toSurface setup.source.context input u, surface]
  rw [← agreement.mixed_iff]
  exact Bridge.toFrame_shows_iff (by simpa only [kept] using held) framed agreement.format_eq rfl
    rfl rfl

def dxva2Link : InputLink :=
  .ofPool ⟨⟨0⟩, ⟨.dxva2, .nv12, 4, 2⟩, .native .dxva2 1⟩

def dxva2Frame : Frame :=
  { format := .dxva2, width := 4, height := 2
    payload := some (.dxva2 ⟨⟨0⟩, 2, .nv12, 4, 2⟩) }

def dxva2World : World :=
  { World.empty with
    media := (Media.empty.addDx9 2 .nv12 4 2 [Plane.zero ⟨4, 2⟩, Plane.zero ⟨4, 1⟩]).2 }

theorem dxva2Frame_scaled (native : outFormat = .d3d11 ∨ outFormat = .dxva2) :
    ∃ output g v out h u',
      (⟨.new, none, {}, none⟩ : ScaleFilter Converter).configOutput softwareRuntime dxva2Link
        outFormat .empty = (.ok output, g, v) ∧
      g.filterFrame dxva2Frame dxva2World = (.ok out, h, u') := by
  have accepted : ∃ output g v, (⟨.new, none, {}, none⟩ : ScaleFilter Converter).configOutput
      softwareRuntime dxva2Link outFormat .empty = (.ok output, g, v) ∧
        output.size = ⟨4, 2⟩ ∧
          output.pool = ⟨⟨0⟩, ⟨outFormat, .nv12, 4, 2⟩, .native .dxva2 1⟩ := by
    have resolved := Dimensions.resolve_four_by_two Ratio.unset .nv12 .nv12
    rcases native with rfl | rfl
    · exact configOutput_planned rfl rfl (plan_of_resolve resolved rfl) rfl rfl
    · exact configOutput_planned rfl rfl (plan_of_resolve resolved rfl) rfl rfl
  obtain ⟨output, g, v, accepted, size_eq, pool_eq⟩ := accepted
  have room : dxva2Frame.HasRoom (.ofPixelFormat dxva2Link.layout)
      (.ofPixelFormat output.pool.desc.swFormat) output.size := by
    rw [size_eq, pool_eq]
    show dxva2Frame.HasRoom (.ofPixelFormat dxva2Link.layout) (.ofPixelFormat .nv12) ⟨4, 2⟩
    decide
  have laid := SurfaceFormat.Laid.of_allocation (f := .nv12) (w := 4) (h := 2) rfl
  obtain ⟨out, h, u', scaled⟩ := @filterFrame_dxva2_ok _ _ _ _ _ _ _ dxva2World dxva2Frame _ _ _ _
    accepted rfl rfl rfl native rfl rfl rfl laid (by decide) (by decide) room
  exact ⟨output, g, v, out, h, u', accepted, scaled⟩

/-- Once an output link is accepted, every output frame carries what its format says exactly
when the link does not cross over to the other native interface. -/
theorem filterFrame_shows_iff
    (accepted : f.configOutput softwareRuntime link outFormat w = (.ok output, g, v))
    (earlier : List (Frame × World))
    -- A frame is one of the holders of its buffers, so they are there.
    (held : ∀ b ∈ input.buffers, (u.buffers.get? b).isSome = true)
    (scaled : (g.afterFrames earlier).filterFrame input u = (.ok out, h, u')) :
    u'.Shows out ↔ ¬link.Crosses outFormat := by
  obtain ⟨-, -, setup, c, serves, agreement⟩ := configOutput_ok accepted
  obtain ⟨later, -⟩ := serves.afterFrames agreement.ready.pending_eq earlier
  exact later.shows_iff agreement held scaled

theorem dxva2Frame_shows :
    ∃ output g v out h u',
      (⟨.new, none, {}, none⟩ : ScaleFilter Converter).configOutput softwareRuntime dxva2Link
        .dxva2 .empty = (.ok output, g, v) ∧
      (∀ b ∈ dxva2Frame.buffers, (dxva2World.buffers.get? b).isSome = true) ∧
      (g.afterFrames []).filterFrame dxva2Frame dxva2World = (.ok out, h, u') ∧ u'.Shows out := by
  obtain ⟨output, g, v, out, h, u', accepted, scaled⟩ := dxva2Frame_scaled (.inr rfl)
  have held : ∀ b ∈ dxva2Frame.buffers, (dxva2World.buffers.get? b).isSome = true :=
    fun _ member => nomatch member
  refine ⟨output, g, v, out, h, u', accepted, held, scaled, ?_⟩
  refine (filterFrame_shows_iff accepted [] held scaled).2 ?_
  rintro ⟨_, _, ⟨⟩, ⟨⟩, ⟨⟨⟩, -⟩ | ⟨-, ⟨⟩⟩⟩

/-- Asked for as frames of the newer interface, they still carry a picture of the older one. -/
theorem dxva2Frame_crossing :
    ∃ output g v out h u',
      (⟨.new, none, {}, none⟩ : ScaleFilter Converter).configOutput softwareRuntime dxva2Link
        .d3d11 .empty = (.ok output, g, v) ∧
      g.filterFrame dxva2Frame dxva2World = (.ok out, h, u') ∧ ¬u'.Shows out := by
  obtain ⟨output, g, v, out, h, u', accepted, scaled⟩ := dxva2Frame_scaled (.inl rfl)
  obtain ⟨-, -, setup, c, serves, agreement⟩ := configOutput_ok accepted
  have held : ∀ b ∈ dxva2Frame.buffers, (dxva2World.buffers.get? b).isSome = true :=
    fun _ member => nomatch member
  refine ⟨output, g, v, out, h, u', accepted, scaled, fun shows => ?_⟩
  refine (serves.shows_iff agreement held scaled).1 shows ?_
  exact ⟨_, _, rfl, rfl, .inl ⟨rfl, rfl⟩⟩

end ScaleFilter

end VideoScaler
