import VideoScaler.Filter.Basic
import VideoScaler.Proofs.Component.Converter
import VideoScaler.Proofs.Filter.Setup

/-! A scale filter between the moment its output link is fixed and the moment it is stopped.

Fixing the link settles everything that a frame depends on. Scaling a frame changes none of
it, whether it succeeds or not, so the filter serves every later frame as it served the
first one.
-/

set_option autoImplicit false

namespace VideoScaler

/-- What was agreed on when the output link of a filter was fixed. -/
structure Agreement (link : InputLink) (device : Option Device) (outFormat : PixelFormat)
    (setup : Setup) (output : OutputLink) (c : Converter) : Prop where
  follows : Setup.Follows softwareRuntime link device outFormat output.size setup.source
  layout_eq : setup.layout = link.layout
  pool_eq : output.pool = setup.source.outputPool
  format_eq : output.format = output.pool.desc.format
  readable : SurfaceFormat.ofPixelFormat setup.layout ≠ .unknown
  writable : SurfaceFormat.ofPixelFormat output.pool.desc.swFormat ≠ .unknown
  ready : c.Ready setup.source.context.memory (.ofPixelFormat setup.layout)
    (.ofPixelFormat output.pool.desc.swFormat) output.size

namespace ScaleFilter

variable {f g : ScaleFilter Converter} {link : InputLink} {outFormat : PixelFormat}
  {setup : Setup} {output : OutputLink} {c : Converter} {w v : World}

/-- Does a filter hold this setup, this link and this converter, and take frames? -/
structure Serves (setup : Setup) (output : OutputLink) (c : Converter)
    (f : ScaleFilter Converter) : Prop where
  configured_eq : f.configured = some ⟨setup, output⟩
  component_eq : f.scaler.component = some c
  isReady_eq : f.scaler.isReady = true

theorem init_ok {κ : Type} {f : ScaleFilter κ} {config : ScaleConfig} {device : Option Device}
    (made : init config device = .ok f) : f = ⟨.new, none, config, device⟩ := by
  unfold init at made
  cases valid : config.validate with
  | error e =>
    rw [valid] at made
    cases made
  | ok =>
    rw [valid] at made
    cases made
    rfl

theorem plan_ok {size : Resolution}
    (planned : f.plan softwareRuntime link outFormat w = .ok ((size, setup), v)) :
    setup.layout = link.layout ∧
      Setup.Follows softwareRuntime link f.device outFormat size setup.source := by
  unfold plan at planned
  obtain ⟨_, -, planned⟩ := bind_ok planned
  obtain ⟨⟨_, _⟩, chosen, planned⟩ := bind_ok planned
  cases planned
  exact Setup.configure_ok chosen

theorem configure_ok
    (configured : f.configure softwareRuntime link outFormat w = (.ok output, g, v)) :
    g.config = f.config ∧
      ∃ setup c, g.Serves setup output c ∧ Agreement link f.device outFormat setup output c := by
  unfold configure at configured
  split at configured
  · cases configured
  case h_2 size setup _ planned =>
    obtain ⟨layout_eq, follows⟩ := plan_ok planned
    simp only at configured
    split at configured
    · cases configured
    case h_2 result ready =>
      cases configured
      obtain ⟨c, holds, -, writable, readable, set⟩ :=
        Converter.ready_of_configure (Prod.ext ready rfl)
      refine ⟨rfl, setup, c, ⟨rfl, ?_, ?_⟩,
        ⟨follows, layout_eq, rfl, rfl, readable, writable, set⟩⟩
      · simp only [holds]
      · simp only [holds, Scaler.isReady, decide_true, Bool.true_or]

/-- A link that is accepted settles what the filter does from then on. -/
theorem configOutput_ok
    (accepted : f.configOutput softwareRuntime link outFormat w = (.ok output, g, v)) :
    g.config = f.config ∧ f.checkFormats link outFormat = .ok () ∧
      ∃ setup c, g.Serves setup output c ∧ Agreement link f.device outFormat setup output c := by
  unfold configOutput at accepted
  split at accepted
  · cases accepted
  case h_2 offered =>
    -- An earlier setup is given up first; configuration and device survive that.
    have kept : (if f.configured.isSome then f.uninit w else (f, w)).1.config = f.config ∧
        (if f.configured.isSome then f.uninit w else (f, w)).1.device = f.device := by
      split <;> exact ⟨rfl, rfl⟩
    generalize (if f.configured.isSome then f.uninit w else (f, w)) = start at accepted kept
    obtain ⟨_, _⟩ := start
    obtain ⟨config_eq, setup, c, serves, agreement⟩ := configure_ok accepted
    rw [kept.1] at config_eq
    rw [kept.2] at agreement
    exact ⟨config_eq, offered, setup, c, serves, agreement⟩

section
variable {κ : Type} {runtime : Runtime κ} {f : ScaleFilter κ} {size : Resolution}

theorem plan_of_resolve
    (resolved : Dimensions.resolve f.config (f.dimensions link) = .ok size)
    (chosen : Setup.configure runtime link f.device outFormat size f.config.format w
      = .ok (setup, v)) :
    f.plan runtime link outFormat w = .ok ((size, setup), v) := by
  unfold plan
  rw [resolved]
  show (Setup.configure runtime link f.device outFormat size f.config.format w >>= _) = _
  rw [chosen]
  rfl

variable [Component κ] (fresh : f.configured = none)
  (offered : f.checkFormats link outFormat = .ok ())
  (planned : f.plan runtime link outFormat w = .ok ((size, setup), v))
  (ready : (Scaler.new.configure runtime setup.source.context
    setup.source.outputPool.desc.swFormat size f.config setup.layout link.size
    (f.scaler.terminate v.media).2).1 = .ok ())
include fresh offered planned ready

theorem configOutput_planned {pool : FramePool} (pool_eq : setup.source.outputPool = pool) :
    ∃ output g u, f.configOutput runtime link outFormat w = (.ok output, g, u) ∧
      output.size = size ∧ output.pool = pool := by
  have unchanged : f.configOutput runtime link outFormat w
      = f.configure runtime link outFormat w := by
    simp only [configOutput, offered, fresh, Option.isSome_none, Bool.false_eq_true, if_false]
  rw [unchanged]
  unfold configure
  simp only [planned, ready]
  exact ⟨_, _, _, rfl, rfl, pool_eq⟩

theorem configOutput_sized :
    ∃ output g u, f.configOutput runtime link outFormat w = (.ok output, g, u) ∧
      output.size = size := by
  obtain ⟨output, g, u, accepted, size_eq, -⟩ :=
    configOutput_planned fresh offered planned ready rfl
  exact ⟨output, g, u, accepted, size_eq⟩

theorem configOutput_of_plan :
    ∃ output g u, f.configOutput runtime link outFormat w = (.ok output, g, u) := by
  obtain ⟨output, g, u, accepted, -⟩ := configOutput_sized fresh offered planned ready
  exact ⟨output, g, u, accepted⟩

end

theorem process_eq {s : Scaler Converter} (holds : s.component = some c)
    (isReady : s.isReady = true) (idle : c.pending = none) (input : Surface) (m : Media) :
    s.process input m =
      match c.accept (.surface input) m with
      | (.ok made, n) => (.ok made, ⟨some c, .running, s.frames + 1⟩, n.release input)
      | (.error failure, n) =>
        (.error (failure.map (Error.operation "SubmitInput")), ⟨some c, .running, s.frames⟩,
          n.release input) := by
  unfold Scaler.process
  simp only [holds, isReady, if_true, Converter.exchange_eq idle]
  cases c.accept (.surface input) m with
  | mk result n => cases result <;> rfl

def counting (f : ScaleFilter Converter) (c : Converter) (frames : Nat) : ScaleFilter Converter :=
  { f with scaler := ⟨some c, .running, frames⟩ }

theorem Serves.counting (serves : f.Serves setup output c) (frames : Nat) :
    (f.counting c frames).Serves setup output c :=
  ⟨serves.configured_eq, rfl, rfl⟩

theorem Serves.convert_eq (serves : f.Serves setup output c) (idle : c.pending = none)
    (input : Frame) (w : World) :
    f.convert input w =
      match Bridge.toSurface setup.source.context input w with
      | (.error failure, w) => (.error failure, f, w)
      | (.ok s, w) =>
        match c.accept (.surface s) w.media with
        | (.error failure, m) =>
          (.error (failure.map (Error.operation "SubmitInput")), f.counting c f.scaler.frames,
            { w with media := m.release s })
        | (.ok made, m) =>
          match Bridge.toFrame output.pool made { w with media := m.release s } with
          | (.error failure, w) => (.error failure, f.counting c (f.scaler.frames + 1), w)
          | (.ok frame, w) =>
            (.ok (finishFrame f.config output input frame),
              f.counting c (f.scaler.frames + 1), w) := by
  obtain ⟨scaler, configured, config, device⟩ := f
  obtain ⟨configured_eq, component_eq, isReady_eq⟩ := serves
  cases configured_eq
  unfold ScaleFilter.convert
  simp only
  cases Bridge.toSurface setup.source.context input w with
  | mk result w =>
    cases result with
    | error failure => rfl
    | ok s =>
      simp only [process_eq component_eq isReady_eq idle]
      cases c.accept (.surface s) w.media with
      | mk result m => cases result <;> rfl

theorem Serves.filterFrame (serves : f.Serves setup output c) (idle : c.pending = none)
    (frame : Frame) (w : World) :
    (f.filterFrame frame w).2.1.Serves setup output c ∧
      (f.filterFrame frame w).2.1.config = f.config := by
  unfold ScaleFilter.filterFrame
  simp only [serves.convert_eq idle]
  split
  · exact ⟨serves, rfl⟩
  · split
    · exact ⟨serves.counting _, rfl⟩
    · split
      · exact ⟨serves.counting _, rfl⟩
      · exact ⟨serves.counting _, rfl⟩

def afterFrames (f : ScaleFilter Converter) (earlier : List (Frame × World)) :
    ScaleFilter Converter :=
  earlier.foldl (fun f entry => (f.filterFrame entry.1 entry.2).2.1) f

-- Frames may fail in between: a failure concerns one frame, and the filter serves the next one
-- as if it had not been there.
theorem Serves.afterFrames (serves : f.Serves setup output c) (idle : c.pending = none)
    (earlier : List (Frame × World)) :
    (f.afterFrames earlier).Serves setup output c ∧ (f.afterFrames earlier).config = f.config := by
  induction earlier generalizing f with
  | nil => exact ⟨serves, rfl⟩
  | cons entry earlier ih =>
    obtain ⟨next, config_eq⟩ := serves.filterFrame idle entry.1 entry.2
    obtain ⟨later, same⟩ := ih next
    exact ⟨later, same.trans config_eq⟩

theorem Serves.filterFrame_ok_iff (serves : f.Serves setup output c) (idle : c.pending = none)
    {input out : Frame} :
    (∃ g, f.filterFrame input w = (.ok out, g, v)) ↔
      ∃ s w₁ made m frame w₂, Bridge.toSurface setup.source.context input w = (.ok s, w₁) ∧
        c.accept (.surface s) w₁.media = (.ok made, m) ∧
        Bridge.toFrame output.pool made { w₁ with media := m.release s } = (.ok frame, w₂) ∧
        finishFrame f.config output input frame = out ∧ w₂.dropFrame input = v := by
  unfold ScaleFilter.filterFrame
  rw [serves.convert_eq idle]
  constructor
  · -- A success of the whole is a success of each of its steps.
    rintro ⟨g, scaled⟩
    rcases surface : Bridge.toSurface setup.source.context input w with ⟨_ | s, w₁⟩
    · simp only [surface, Prod.mk.injEq, reduceCtorEq, false_and] at scaled
    rcases accepted : c.accept (.surface s) w₁.media with ⟨_ | made, m⟩
    · simp only [surface, accepted, Prod.mk.injEq, reduceCtorEq, false_and] at scaled
    rcases framed : Bridge.toFrame output.pool made { w₁ with media := m.release s }
      with ⟨_ | frame, w₂⟩
    · simp only [surface, accepted, framed, Prod.mk.injEq, reduceCtorEq, false_and] at scaled
    simp only [surface, accepted, framed, Prod.mk.injEq, Except.ok.injEq] at scaled
    exact ⟨s, w₁, made, m, frame, w₂, rfl, accepted, framed, scaled.1, scaled.2.2⟩
  · rintro ⟨s, w₁, made, m, frame, w₂, surface, accepted, framed, rfl, rfl⟩
    simp only [surface, accepted, framed]
    exact ⟨_, rfl⟩

end ScaleFilter

end VideoScaler
