import VideoScaler.Proofs.Account.Component
import VideoScaler.Proofs.Account.World
import VideoScaler.Proofs.Filter.Payload

/-! Filters as holders of surfaces.

Between two frames a filter holds what waits at its converter, which is nothing unless somebody
else has used the converter. Every surface that is made for a frame is given up, or goes into the
buffer of the output frame.
-/

set_option autoImplicit false

namespace VideoScaler

namespace Setup

variable {κ : Type} {runtime : Runtime κ} {size : Resolution} {userFormat : Option PixelFormat}
  {outFormat : PixelFormat} {source : ContextSource} {w v : World}

theorem pools_of_addPool {device : Device} {desc : PoolDesc} {pool : FramePool}
    (added : w.addPool device desc = .ok (pool, v)) : ∃ pools, v = { w with pools } := by
  unfold World.addPool at added
  split at added
  · cases added
  split at added <;> cases added
  exact ⟨_, rfl⟩

theorem pools_of_described {described : Except Error PoolDesc} {device : Device}
    {on : FramePool → ContextSource}
    (made : (do
      let desc ← described
      let (output, w) ← w.addPool device desc
      return (on output, w)) = .ok (source, v)) : ∃ pools, v = { w with pools } := by
  obtain ⟨desc, -, made⟩ := bind_ok made
  obtain ⟨⟨output, _⟩, added, made⟩ := bind_ok made
  cases made
  exact pools_of_addPool added

theorem pools_of_configure {link : InputLink} {device : Option Device} {setup : Setup}
    (configured : configure runtime link device outFormat size userFormat w = .ok (setup, v)) :
    ∃ pools, v = { w with pools } := by
  unfold configure at configured
  cases pool : link.pool with
  | some input =>
    simp only [pool] at configured
    split at configured
    · cases configured
    obtain ⟨⟨source, _⟩, chosen, configured⟩ := bind_ok configured
    cases configured
    unfold onInputPool at chosen
    split at chosen
    · cases chosen
    obtain ⟨context, -, chosen⟩ := bind_ok chosen
    exact pools_of_described chosen
  | none =>
    cases device with
    | some device =>
      simp only [pool] at configured
      split at configured
      · cases configured
      obtain ⟨⟨source, _⟩, chosen, configured⟩ := bind_ok configured
      cases configured
      obtain ⟨context, -, chosen⟩ := bind_ok chosen
      exact pools_of_described chosen
    | none =>
      simp only [pool] at configured
      split at configured
      · cases configured
      obtain ⟨⟨source, _⟩, chosen, configured⟩ := bind_ok configured
      cases configured
      obtain ⟨context, -, chosen⟩ := bind_ok chosen
      exact pools_of_described chosen

end Setup

namespace ScaleFilter

/-- The ways a frame can take through a filter. Only the last one ends with an output frame. -/
inductive Converts (f : ScaleFilter Converter) (input : Frame) (w : World) :
    Attempt Error Frame → ScaleFilter Converter → World → Prop where
  | unconfigured : Converts f input w (.error (.refused .notConfigured)) f w
  | unread {c : Configured} {failure : Failure Error} {v : World}
    (brought : Bridge.toSurface c.setup.source.context input w = (.error failure, v)) :
    Converts f input w (.error failure) f v
  | unmade {c : Configured} {s : Surface} {u : World} {failure : Failure Error}
    {scaler : Scaler Converter} {m : Media}
    (brought : Bridge.toSurface c.setup.source.context input w = (.ok s, u))
    (processed : f.scaler.process s u.media = (.error failure, scaler, m)) :
    Converts f input w (.error failure) { f with scaler } { u with media := m }
  | unshown {c : Configured} {s made : Surface} {u v : World} {failure : Failure Error}
    {scaler : Scaler Converter} {m : Media}
    (brought : Bridge.toSurface c.setup.source.context input w = (.ok s, u))
    (processed : f.scaler.process s u.media = (.ok made, scaler, m))
    (shown : Bridge.toFrame c.output.pool made { u with media := m } = (.error failure, v)) :
    Converts f input w (.error failure) { f with scaler } v
  | shown {c : Configured} {s made : Surface} {u v : World} {frame : Frame}
    {scaler : Scaler Converter} {m : Media}
    (brought : Bridge.toSurface c.setup.source.context input w = (.ok s, u))
    (processed : f.scaler.process s u.media = (.ok made, scaler, m))
    (shown : Bridge.toFrame c.output.pool made { u with media := m } = (.ok frame, v)) :
    Converts f input w (.ok (finishFrame f.config c.output input frame)) { f with scaler } v

theorem converts_of_convert {f g : ScaleFilter Converter} {input : Frame} {w v : World}
    {result : Attempt Error Frame} (converted : f.convert input w = (result, g, v)) :
    f.Converts input w result g v := by
  unfold convert at converted
  split at converted
  · cases converted
    exact .unconfigured
  case h_2 c configured =>
    split at converted
    case h_1 brought =>
      cases converted
      exact .unread brought
    case h_2 s u brought =>
      simp only at converted
      cases processed : f.scaler.process s u.media with
      | mk outcome rest =>
        obtain ⟨scaler, m⟩ := rest
        rw [processed] at converted
        cases outcome with
        | error failure =>
          cases converted
          exact .unmade brought processed
        | ok made =>
          simp only at converted
          split at converted
          case h_1 shown =>
            cases converted
            exact .unshown brought processed shown
          case h_2 shown =>
            cases converted
            exact .shown brought processed shown

theorem convert_of_filterFrame {f g : ScaleFilter Converter} {input : Frame} {w v : World}
    {result : Attempt Error Frame} (filtered : f.filterFrame input w = (result, g, v)) :
    ∃ u, f.convert input w = (result, g, u) ∧ v = u.dropFrame input := by
  unfold filterFrame at filtered
  cases filtered
  exact ⟨_, rfl, rfl⟩

theorem pending_filterFrame {f g : ScaleFilter Converter} {input : Frame} {w v : World}
    {result : Attempt Error Frame} (filtered : f.filterFrame input w = (result, g, v)) :
    g.scaler.pending = f.scaler.pending := by
  obtain ⟨u, converted, -⟩ := convert_of_filterFrame filtered
  cases converts_of_convert converted with
  | unconfigured | unread => rfl
  | unmade _ processed | unshown _ processed | shown _ processed =>
    exact (Scaler.process_cases processed).1

theorem pending_init {config : ScaleConfig} {device : Option Device} {f : ScaleFilter Converter}
    (made : ScaleFilter.init config device = .ok f) : f.scaler.pending = none := by
  rw [init_ok made]
  rfl

theorem pools_of_plan {f : ScaleFilter Converter} {link : InputLink}
    {outFormat : PixelFormat} {size : Resolution} {setup : Setup} {w v : World}
    (planned : f.plan softwareRuntime link outFormat w = .ok ((size, setup), v)) :
    ∃ pools, v = { w with pools } := by
  unfold plan at planned
  obtain ⟨_, -, planned⟩ := bind_ok planned
  obtain ⟨⟨_, _⟩, chosen, planned⟩ := bind_ok planned
  cases planned
  exact Setup.pools_of_configure chosen

end ScaleFilter

variable {w v : World} {held : Multiset (Ref SurfaceState)} {copies : Multiset FrameBuffer}
  {s : Surface} {input out : Frame} {context : DeviceContext} {pool : FramePool}

def copiesOf : Option Frame → Multiset FrameBuffer
  | some f => f.buffers
  | none => 0

namespace Media

variable {m n : Media}

theorem Accounts.mark (accounts : m.Accounts held) (frame : Frame) (s : Surface) :
    (Bridge.mark frame s m).Accounts held :=
  (accounts.setCrop ..).setPts ..

theorem Accounts.uploads {context : DeviceContext} {result : Attempt Error Surface}
    (accounts : m.Accounts held) (uploads : Bridge.Uploads context input m (result, n)) :
    n.Accounts (entries result.toOption + held) := by
  cases uploads with
  | unknown | unallocated => exact accounts.of_error _
  | unfilled => exact (accounts.makeSurface ..).release.of_error _
  | filled =>
    rw [Except.toOption, entries_some_add]
    exact accounts.makeSurface ..

end Media

namespace Bridge

theorem native_of_nativePayload? {payload : Payload} (carried : nativePayload? s = some payload) :
    (∃ texture, payload = .d3d11 texture 0) ∨ ∃ picture, payload = .dxva2 picture := by
  unfold nativePayload? at carried
  split at carried <;> cases carried
  · exact .inl ⟨_, rfl⟩
  · exact .inr ⟨_, rfl⟩

theorem copiesOf_hostFrame (pool : FramePool) (s : Surface) (m : Media) :
    copiesOf (hostFrame pool s m).toOption = 0 := by
  unfold hostFrame
  simp only
  split
  · rfl
  · split <;> rfl

end Bridge

namespace World

theorem Accounts.toSurface {result : Attempt Error Surface} (accounts : w.Accounts held copies)
    (brought : Bridge.toSurface context input w = (result, v)) :
    v.Accounts (entries result.toOption + held) copies := by
  have arrived := Bridge.toSurface_arrives context input w
  rw [brought] at arrived
  cases arrived with
  | slice _ wraps =>
    -- The texture is told which slice to show first, whatever comes of it.
    have tagged (texture : Texture) (index : Nat) :
        (w.media.tagged texture index).Accounts (held + w.buffered) :=
      accounts.media.of_surfaces rfl rfl rfl
    cases wraps with
    | beyond => exact accounts.with_entry (accounts.media.of_error _)
    | refused => exact accounts.with_entry ((tagged _ _).of_error _)
    | wrapped => exact accounts.with_entry (((tagged _ _).addSurface ..).mark ..)
  | lost | foreign => exact accounts.with_entry (accounts.media.of_error _)
  | @shared buffer s _ holds =>
    have member : s.ref ∈ held + w.buffered :=
      Multiset.mem_add.2 (.inr (mem_buffered.2 ⟨buffer, s, holds, rfl⟩))
    exact accounts.with_entry ((accounts.media.retain member).mark ..)
  | picture => exact accounts.with_entry ((accounts.media.addSurface ..).mark ..)
  | unread _ uploads => exact accounts.with_entry (accounts.media.uploads uploads)
  | copied _ uploads => exact accounts.with_entry ((accounts.media.uploads uploads).setPts ..)

theorem Accounts.toFrame {result : Attempt Error Frame}
    (accounts : w.Accounts (s.ref ::ₘ held) copies)
    (shown : Bridge.toFrame pool s w = (result, v)) :
    v.Accounts held (copiesOf result.toOption + copies) := by
  have added : ((w.newFrame pool).2.addBuffer s true).2.Accounts held
      (((w.newFrame pool).2.addBuffer s true).1 ::ₘ copies) :=
    (accounts.of_pools _).addBuffer true
  have given : ({ w with media := w.media.release s } : World).Accounts held (0 + copies) := by
    rw [zero_add]
    exact accounts.release
  unfold Bridge.toFrame at shown
  split at shown
  case h_1 =>
    cases shown
    exact added
  case h_2 | h_3 =>
    split at shown
    case h_1 =>
      cases shown
      exact given
    case h_2 payload carried =>
      cases shown
      rcases Bridge.native_of_nativePayload? carried with ⟨texture, rfl⟩ | ⟨picture, rfl⟩
      · exact added
      · exact added
  case h_4 =>
    cases shown
    rw [Bridge.copiesOf_hostFrame]
    exact given

/-! ### Frames through a filter -/

variable {f g : ScaleFilter Converter} {result : Attempt Error Frame}

theorem Accounts.unframed {ε : Type} (accounts : w.Accounts held copies) (e : ε) :
    w.Accounts held (copiesOf (Except.error e : Except ε Frame).toOption + copies) := by
  rwa [Except.toOption, copiesOf, zero_add]

theorem Accounts.process {scaler next : Scaler Converter} {outcome : Attempt Error Surface}
    {m : Media} (accounts : w.Accounts (s.ref ::ₘ held) copies)
    (processed : scaler.process s w.media = (outcome, next, m)) :
    ({ w with media := m } : World).Accounts (entries outcome.toOption + held) copies := by
  have media := accounts.media
  rw [Multiset.cons_add] at media
  exact accounts.with_entry (media.process processed)

theorem Accounts.convert (accounts : w.Accounts held copies)
    (converted : f.convert input w = (result, g, v)) :
    v.Accounts held (copiesOf result.toOption + copies) := by
  cases ScaleFilter.converts_of_convert converted with
  | unconfigured => exact accounts.unframed _
  | unread brought =>
    have after := accounts.toSurface brought
    rw [Except.toOption, entries_none_add] at after
    exact after.unframed _
  | unmade brought processed =>
    have after := (accounts.toSurface brought).process processed
    rw [Except.toOption, entries_none_add] at after
    exact after.unframed _
  | unshown brought processed shown =>
    exact ((accounts.toSurface brought).process processed).toFrame shown
  | shown brought processed shown =>
    have framed := ((accounts.toSurface brought).process processed).toFrame shown
    exact framed

/-- The input frame is given up in any case, and an output frame comes with its own copies. -/
theorem Accounts.filterFrame (accounts : w.Accounts held (input.buffers + copies))
    (filtered : f.filterFrame input w = (result, g, v)) :
    v.Accounts held (copiesOf result.toOption + copies) := by
  obtain ⟨u, converted, rfl⟩ := ScaleFilter.convert_of_filterFrame filtered
  have after := accounts.convert converted
  rw [add_left_comm] at after
  exact after.dropFrame

/-! ### Links -/

theorem Accounts.uninit (accounts : w.Accounts (entries f.scaler.pending + held) copies) :
    (f.uninit w).2.Accounts held copies ∧ (f.uninit w).1.scaler.pending = none := by
  have media := accounts.media
  rw [add_assoc] at media
  obtain ⟨media, idle⟩ := media.terminate
  exact ⟨accounts.of_media media, idle⟩

theorem Accounts.configure {link : InputLink} {outFormat : PixelFormat}
    {answer : Except Error OutputLink}
    (accounts : w.Accounts (entries f.scaler.pending + held) copies)
    (configured : f.configure softwareRuntime link outFormat w = (answer, g, v)) :
    v.Accounts (entries g.scaler.pending + held) copies := by
  unfold ScaleFilter.configure at configured
  split at configured
  case h_1 =>
    cases configured
    exact accounts
  case h_2 size setup u planned =>
    obtain ⟨pools, rfl⟩ := ScaleFilter.pools_of_plan planned
    have media := accounts.media
    rw [add_assoc] at media
    -- The old converter goes with what waits at it, and nothing waits at the new one.
    have terminated := media.terminate.1
    obtain ⟨same, idle⟩ := Scaler.configure_new setup.source.context
      setup.source.outputPool.desc.swFormat size f.config setup.layout link.size
      (f.scaler.terminate w.media).2
    have after : ({ w with media := (f.scaler.terminate w.media).2, pools } : World).Accounts
        held copies :=
      (accounts.of_media terminated).of_pools pools
    simp only at configured
    split at configured
    case h_1 =>
      cases configured
      rw [idle, entries_none_add, same]
      exact after
    case h_2 =>
      cases configured
      rw [idle, entries_none_add, same]
      exact after

theorem Accounts.configOutput {link : InputLink} {outFormat : PixelFormat}
    {answer : Except Error OutputLink}
    (accounts : w.Accounts (entries f.scaler.pending + held) copies)
    (configured : f.configOutput softwareRuntime link outFormat w = (answer, g, v)) :
    v.Accounts (entries g.scaler.pending + held) copies := by
  unfold ScaleFilter.configOutput at configured
  split at configured
  case h_1 =>
    cases configured
    exact accounts
  case h_2 =>
    cases set : f.configured.isSome with
    | true =>
      simp only [set, if_true] at configured
      obtain ⟨after, idle⟩ := accounts.uninit
      refine Accounts.configure (f := (f.uninit w).1) ?_ configured
      rwa [idle, entries_none_add]
    | false =>
      simp only [set, Bool.false_eq_true, if_false] at configured
      exact accounts.configure configured

end World

/-! ### What is made for a frame -/

namespace Bridge

theorem toFrame_plain {result : Attempt Error Frame} (shown : toFrame pool s w = (result, v))
    (plain : ∀ out, result = .ok out → out.payload = none) :
    v = { w with media := w.media.release s } := by
  unfold toFrame at shown
  split at shown
  case h_1 =>
    cases shown
    cases plain _ rfl
  case h_2 | h_3 =>
    split at shown
    case h_1 =>
      cases shown
      rfl
    case h_2 payload carried =>
      cases shown
      cases plain _ rfl
  case h_4 =>
    cases shown
    rfl

theorem created_toSurface_host (host : input.payload = none)
    (brought : toSurface context input w = (.ok s, v)) :
    v.media.created = w.media.created + 1 := by
  have arrived := toSurface_arrives context input w
  rw [brought] at arrived
  cases arrived with
  | copied _ uploads =>
    cases uploads
    exact Media.created_makeSurface ..
  | slice payload | shared payload | picture payload =>
    rw [host] at payload
    cases payload

end Bridge

namespace ScaleFilter

variable {f g : ScaleFilter Converter} {result : Attempt Error Frame}

theorem buffers_convert (converted : f.convert input w = (result, g, v))
    (plain : ∀ out, result = .ok out → out.payload = none) : v.buffers = w.buffers := by
  have kept {c : Configured} {outcome : Attempt Error Surface} {u : World}
      (brought : Bridge.toSurface c.setup.source.context input w = (outcome, u)) :
      u.buffers = w.buffers := by
    rw [← Bridge.buffers_toSurface c.setup.source.context input w, brought]
  cases converts_of_convert converted with
  | unconfigured => rfl
  | unread brought => exact kept brought
  | unmade brought processed =>
    have same := kept brought
    exact same
  | unshown brought processed shown =>
    have same := kept brought
    have given := Bridge.toFrame_plain shown (fun _ none => by cases none)
    rw [given]
    exact same
  | @shown c s made u v frame scaler m brought processed shown =>
    have same := kept brought
    have unseen : frame.payload = none := plain (finishFrame f.config c.output input frame) rfl
    have given := Bridge.toFrame_plain shown (fun _ framed => by
      cases framed
      exact unseen)
    rw [given]
    exact same

theorem created_convert (host : input.payload = none) (plain : out.payload = none)
    (converted : f.convert input w = (.ok out, g, v)) :
    v.media.created = w.media.created + 2 := by
  cases converts_of_convert converted with
  | @shown c s made u v frame scaler m brought processed shown =>
    have unseen : frame.payload = none := plain
    have given := Bridge.toFrame_plain shown (fun _ framed => by
      cases framed
      exact unseen)
    rw [given]
    show (m.release made).created = _
    rw [Media.created_release, Media.created_process processed,
      Bridge.created_toSurface_host host brought]

theorem created_filterFrame (host : input.payload = none) (plain : out.payload = none)
    (filtered : f.filterFrame input w = (.ok out, g, v)) :
    v.media.created = w.media.created + 2 := by
  obtain ⟨u, converted, rfl⟩ := convert_of_filterFrame filtered
  rw [World.created_dropFrame, created_convert host plain converted]

theorem media_configOutput {link : InputLink} {outFormat : PixelFormat}
    {answer : Except Error OutputLink} {config : ScaleConfig} {device : Option Device}
    (configured : (⟨.new, none, config, device⟩ : ScaleFilter Converter).configOutput
      softwareRuntime link outFormat w = (answer, g, v)) : v.media = w.media := by
  unfold configOutput at configured
  split at configured
  case h_1 =>
    cases configured
    rfl
  case h_2 =>
    simp only [Option.isSome_none, Bool.false_eq_true, if_false] at configured
    unfold configure at configured
    split at configured
    case h_1 =>
      cases configured
      rfl
    case h_2 size setup u planned =>
      obtain ⟨pools, rfl⟩ := pools_of_plan planned
      obtain ⟨same, -⟩ := Scaler.configure_new setup.source.context
        setup.source.outputPool.desc.swFormat size config setup.layout link.size w.media
      simp only at configured
      split at configured <;> cases configured <;> exact same

end ScaleFilter

end VideoScaler
