import VideoScaler.Proofs.Filter.Journal
import VideoScaler.Proofs.Filter.Payload
import VideoScaler.Proofs.Filter.Refusal

/-! The life of a filter, whatever its runtime and its components do.

Between two calls a filter is either idle or holds a component together with the setup that it
was started for. Every error but one leads back to the idle filter, which is as good as a new
one, and no component goes without being terminated.
-/

set_option autoImplicit false

namespace VideoScaler

variable {κ : Type} [Component κ]

namespace Scaler

variable {s : Scaler κ} {c d : κ}

def Descends (c d : κ) : Prop :=
  Relation.ReflTransGen (fun c d => ∃ input m, (exchange c input m).2.1 = d) c d

theorem prepareTold_cases (setup : Setup) (c : κ) (settings : List (String × Variant))
    (input : SurfaceFormat) (size : Resolution) :
    (∃ e d, prepareTold setup c settings input size = ((.error e, d), [])) ∨
    ∃ d, prepareTold setup c settings input size = ((.ok (), d), [.started setup d]) := by
  unfold prepareTold
  rcases applySettings c settings with ⟨_ | _, d⟩
  · exact .inl ⟨_, _, rfl⟩
  rcases started : Component.init d input size.width.toInt32 size.height.toInt32 with ⟨_ | _, e⟩
  · exact .inl ⟨_, _, by simp only [started]; exact rfl⟩
  · exact .inr ⟨_, by simp only [started]; exact rfl⟩

theorem configureTold_cases (s : Scaler κ) (runtime : Runtime κ) (setup : Setup)
    (outSize : Resolution) (config : ScaleConfig) (inSize : Resolution) (m : Media) :
    (∃ e n, s.configureTold runtime setup outSize config inSize m = ((.error e, s, n), [])) ∨
    ∃ c n, s.configureTold runtime setup outSize config inSize m =
      ((.ok (), { s with component := some c, state := .configured }, n), [.started setup c]) := by
  unfold configureTold
  simp only
  split
  · exact .inl ⟨_, _, rfl⟩
  split
  · exact .inl ⟨_, _, rfl⟩
  split
  · exact .inl ⟨_, _, rfl⟩
  split
  case h_1 => exact .inl ⟨_, _, rfl⟩
  case h_2 c _ =>
    rcases prepareTold_cases setup c _ _ inSize with ⟨e, d, refused⟩ | ⟨d, started⟩
    · exact .inl ⟨_, _, by rw [refused]⟩
    · exact .inr ⟨_, _, by rw [started]⟩

theorem terminateTold_of_none (gone : s.component = none) (m : Media) :
    ∃ t : Scaler κ, s.terminateTold m = ((t, m), []) ∧ t.component = none ∧ t.isReady = false := by
  unfold terminateTold
  simp only [gone]
  refine ⟨_, rfl, rfl, ?_⟩
  unfold isReady
  split <;> rfl

theorem terminateTold_of_some (holds : s.component = some c) (m : Media) :
    ∃ (t : Scaler κ) (n : Media), s.terminateTold m = ((t, n), [.terminated c]) ∧
      t.component = none ∧ t.isReady = false := by
  unfold terminateTold
  simp only [holds]
  refine ⟨_, _, rfl, rfl, ?_⟩
  unfold isReady
  split <;> rfl

theorem process_of_some (holds : s.component = some c) (isReady : s.isReady = true)
    (input : Surface) (m : Media) :
    (s.process input m).1 = (exchange c input m).1 ∧
      (s.process input m).2.1.component = some (exchange c input m).2.1 ∧
      (s.process input m).2.1.state = .running := by
  simp only [process, holds, isReady, if_true]
  rcases exchange c input m with ⟨_ | _, d, n⟩ <;> exact ⟨rfl, rfl, rfl⟩

theorem exchange_ne_notConfigured (c : κ) (input : Surface) (m : Media) :
    (exchange c input m).1 ≠ .error (.refused .notConfigured) := by
  unfold exchange
  simp only
  split
  case h_1 failure _ => cases failure <;> simp [Failure.map]
  case h_2 =>
    split <;> simp

end Scaler

namespace ScaleFilter

variable {f g : ScaleFilter κ} {setup : Setup} {c : κ} {events : List (Event κ)}

structure Idle (f : ScaleFilter κ) : Prop where
  configured_eq : f.configured = none
  component_eq : f.scaler.component = none
  isReady_eq : f.scaler.isReady = false

structure Holds (setup : Setup) (c : κ) (f : ScaleFilter κ) : Prop where
  configured_eq : ∃ output, f.configured = some ⟨setup, output⟩
  component_eq : f.scaler.component = some c
  isReady_eq : f.scaler.isReady = true

/-! ### One call -/

theorem Idle.filterFrame (idle : f.Idle) (x : Frame) (w : World) :
    f.filterFrame x w = (.error (.refused .notConfigured), f, w.dropFrame x) := by
  simp only [ScaleFilter.filterFrame, convert, idle.configured_eq]

theorem Holds.filterFrame (holds : f.Holds setup c) (x : Frame) (w : World) :
    (f.filterFrame x w).1 ≠ .error (.refused .notConfigured) ∧
      ∃ d, Scaler.Descends c d ∧ (f.filterFrame x w).2.1.Holds setup d := by
  obtain ⟨scaler, configured, config, device⟩ := f
  obtain ⟨⟨output, configured_eq⟩, component_eq, isReady_eq⟩ := holds
  cases configured_eq
  simp only [ScaleFilter.filterFrame, convert]
  rcases brought : Bridge.toSurface setup.source.context x w with ⟨e | s, v⟩
  · refine ⟨fun same => ?_, c, .refl, ⟨output, rfl⟩, component_eq, isReady_eq⟩
    cases same
    exact Bridge.isOfPictures_of_toSurface (congrArg Prod.fst brought)
  -- Whatever comes of the surface, the component goes on.
  obtain ⟨result_eq, nextComponent_eq, state_eq⟩ :=
    Scaler.process_of_some component_eq isReady_eq s v.media
  have next : Scaler.Descends c (Scaler.exchange c s v.media).2.1 := .single ⟨s, v.media, rfl⟩
  have stillReady : (scaler.process s v.media).2.1.isReady = true := by
    simp only [Scaler.isReady, state_eq, decide_true, Bool.or_true]
  have failed := Scaler.exchange_ne_notConfigured c s v.media
  rw [← result_eq] at failed
  rcases processed : scaler.process s v.media with ⟨failure | made, later, n⟩ <;>
    simp only [processed] at nextComponent_eq stillReady failed ⊢
  · exact ⟨by simpa using failed, _, next, ⟨output, rfl⟩, nextComponent_eq, stillReady⟩
  rcases framed : Bridge.toFrame output.pool made { v with media := n } with ⟨failure | frame, u⟩
  · refine ⟨fun same => ?_, _, next, ⟨output, rfl⟩, nextComponent_eq, stillReady⟩
    cases same
    exact Bridge.isOfPictures_of_toFrame (congrArg Prod.fst framed)
  · exact ⟨by simp, _, next, ⟨output, rfl⟩, nextComponent_eq, stillReady⟩

theorem Idle.stopTold (idle : f.Idle) (w : World) :
    ∃ g : ScaleFilter κ, f.stopTold w = ((g, w), []) ∧ g.Idle := by
  obtain ⟨scaler, stopped, component_eq, isReady_eq⟩ :=
    Scaler.terminateTold_of_none idle.component_eq w.media
  refine ⟨{ f with scaler }, ?_, idle.configured_eq, component_eq, isReady_eq⟩
  simp only [ScaleFilter.stopTold, stopped]

theorem Idle.uninitTold (idle : f.Idle) (w : World) :
    ∃ g : ScaleFilter κ, f.uninitTold w = ((g, w), []) ∧ g.Idle := by
  obtain ⟨g, stopped, next⟩ := idle.stopTold w
  refine ⟨{ g with configured := none }, ?_, rfl, next.component_eq, next.isReady_eq⟩
  simp only [ScaleFilter.uninitTold, stopped, releases, next.configured_eq, Option.toList_none,
    List.map_nil, List.append_nil]

theorem Holds.uninitTold (holds : f.Holds setup c) (w : World) :
    ∃ g v, f.uninitTold w = ((g, v), [.terminated c, .released setup]) ∧ g.Idle := by
  obtain ⟨output, configured_eq⟩ := holds.configured_eq
  obtain ⟨scaler, media, stopped, component_eq, isReady_eq⟩ :=
    Scaler.terminateTold_of_some holds.component_eq w.media
  refine ⟨{ f with scaler, configured := none }, { w with media }, ?_, rfl, component_eq,
    isReady_eq⟩
  simp only [ScaleFilter.uninitTold, ScaleFilter.stopTold, stopped, releases, configured_eq,
    Option.toList_some, List.map_cons, List.map_nil, List.cons_append, List.nil_append]

/-- An idle filter stays idle on an error, after which at most a setup is given up that was made
for nothing; otherwise it holds a new setup and a component that has been started for it. -/
theorem Idle.configureTold (idle : f.Idle) (runtime : Runtime κ) (link : InputLink)
    (outFormat : PixelFormat) (w : World) :
    (∃ e g v, f.configureTold runtime link outFormat w = ((.error e, g, v), []) ∧ g.Idle) ∨
    (∃ e g v setup, f.configureTold runtime link outFormat w
        = ((.error e, g, v), [.released setup]) ∧ g.Idle) ∨
    ∃ output g v setup c, f.configureTold runtime link outFormat w
        = ((.ok output, g, v), [.started setup c]) ∧ g.Holds setup c := by
  unfold ScaleFilter.configureTold
  rcases f.plan runtime link outFormat w with e | ⟨⟨size, setup⟩, v⟩
  · exact .inl ⟨e, f, w, rfl, idle⟩
  refine .inr ?_
  obtain ⟨_, stopped, -⟩ := Scaler.terminateTold_of_none idle.component_eq v.media
  simp only [stopped, releases, idle.configured_eq]
  rcases Scaler.configureTold_cases Scaler.new runtime setup size f.config link.size v.media
    with ⟨e, n, refused⟩ | ⟨c, n, started⟩
  · simp only [refused]
    exact .inl ⟨e, _, _, setup, rfl, rfl, rfl, rfl⟩
  · simp only [started]
    exact .inr ⟨_, _, _, setup, c, rfl, ⟨_, rfl⟩, rfl, rfl⟩

end ScaleFilter

/-! ### Runs of calls -/

inductive Call (κ : Type) where
  | configOutput (runtime : Runtime κ) (link : InputLink) (outFormat : PixelFormat)
  | filterFrame (frame : Frame)
  | uninit

inductive CallResult where
  | link (result : Except Error OutputLink)
  | frame (result : Attempt Error Frame)
  | done

namespace Call

def apply (f : ScaleFilter κ) (w : World) : Call κ → CallResult × ScaleFilter κ × World
  | configOutput runtime link outFormat =>
    let (result, next) := f.configOutput runtime link outFormat w
    (.link result, next)
  | filterFrame frame =>
    let (result, next) := f.filterFrame frame w
    (.frame result, next)
  | uninit => (.done, f.uninit w)

/-- A call with what it tells. Frames are scaled without any of these events. -/
def applyTold (f : ScaleFilter κ) (w : World) :
    Call κ → (CallResult × ScaleFilter κ × World) × List (Event κ)
  | configOutput runtime link outFormat =>
    let ((result, next), events) := f.configOutputTold runtime link outFormat w
    ((.link result, next), events)
  | filterFrame frame =>
    let (result, next) := f.filterFrame frame w
    ((.frame result, next), [])
  | uninit =>
    let (next, events) := f.uninitTold w
    ((.done, next), events)

theorem applyTold_fst (call : Call κ) (f : ScaleFilter κ) (w : World) :
    (call.applyTold f w).1 = call.apply f w := by
  cases call with
  | configOutput runtime link outFormat =>
    simp only [applyTold, apply, ScaleFilter.configOutputTold_fst]
  | filterFrame frame => rfl
  | uninit => simp only [applyTold, apply, ScaleFilter.uninitTold_fst]

end Call

namespace ScaleFilter

variable {f g : ScaleFilter κ} {setup : Setup} {c : κ} {events : List (Event κ)}

/-- The filter after calls that each came in some state of the world. -/
def afterCalls (f : ScaleFilter κ) (calls : List (Call κ × World)) : ScaleFilter κ :=
  calls.foldl (fun f entry => (entry.1.apply f entry.2).2.1) f

def results (f : ScaleFilter κ) : List (Call κ × World) → List (CallResult × World)
  | [] => []
  | (call, w) :: calls =>
    ((call.apply f w).1, (call.apply f w).2.2) :: results (call.apply f w).2.1 calls

def told (f : ScaleFilter κ) : List (Call κ × World) → List (Event κ)
  | [] => []
  | (call, w) :: calls => (call.applyTold f w).2 ++ told (call.apply f w).2.1 calls

/-- Has every component that was started been terminated once, before its setup was given
up? Some setups are given up without a component. -/
inductive Settled : List (Event κ) → Prop where
  | nil : Settled []
  | unused {events : List (Event κ)} (setup : Setup) (before : Settled events) :
    Settled (events ++ [.released setup])
  | used {events : List (Event κ)} {c d : κ} (setup : Setup) (before : Settled events)
    (descends : Scaler.Descends c d) :
    Settled (events ++ [.started setup c, .terminated d, .released setup])

/-- Is this what a filter has told so far? The component that it holds is the last one that was
started, and its setup is the one it was started for. -/
inductive Tells (events : List (Event κ)) (f : ScaleFilter κ) : Prop where
  | idle (settled : Settled events) (idle : f.Idle)
  | holding {before : List (Event κ)} {setup : Setup} {c d : κ} (settled : Settled before)
    (events_eq : events = before ++ [.started setup c]) (descends : Scaler.Descends c d)
    (holds : f.Holds setup d)

theorem Settled.then_idle (settled : Settled events) (idle : f.Idle) : Tells (events ++ []) f := by
  rw [List.append_nil]
  exact .idle settled idle

theorem Tells.configure (settled : Settled events) (idle : f.Idle) (runtime : Runtime κ)
    (link : InputLink) (outFormat : PixelFormat) (w : World) :
    Tells (events ++ (f.configureTold runtime link outFormat w).2)
      (f.configureTold runtime link outFormat w).1.2.1 := by
  obtain ⟨e, g, v, same, next⟩ | ⟨e, g, v, setup, same, next⟩ | ⟨output, g, v, setup, c, same, next⟩
      := idle.configureTold runtime link outFormat w <;>
    rw [same]
  · exact settled.then_idle next
  · exact .idle (.unused setup settled) next
  · exact .holding settled rfl .refl next

theorem Tells.uninit (tells : Tells events f) (w : World) :
    Settled (events ++ (f.uninitTold w).2) ∧ (f.uninitTold w).1.1.Idle := by
  cases tells with
  | idle settled idle =>
    obtain ⟨g, same, next⟩ := idle.uninitTold w
    rw [same, List.append_nil]
    exact ⟨settled, next⟩
  | @holding before setup c d settled events_eq descends holds =>
    obtain ⟨g, v, same, next⟩ := holds.uninitTold w
    rw [same, events_eq, List.append_assoc]
    exact ⟨.used setup settled descends, next⟩

theorem Tells.configOutput (tells : Tells events f) (runtime : Runtime κ) (link : InputLink)
    (outFormat : PixelFormat) (w : World) :
    Tells (events ++ (f.configOutputTold runtime link outFormat w).2)
      (f.configOutputTold runtime link outFormat w).1.2.1 := by
  unfold configOutputTold
  cases f.checkFormats link outFormat with
  | error e =>
    simp only [List.append_nil]
    exact tells
  | ok =>
    simp only [← List.append_assoc]
    split
    · obtain ⟨settled, idle⟩ := tells.uninit w
      exact .configure settled idle ..
    · rename_i unconfigured
      cases tells with
      | idle settled idle =>
        simp only [List.append_nil]
        exact .configure settled idle ..
      | holding _ _ _ holds =>
        obtain ⟨output, configured_eq⟩ := holds.configured_eq
        exact absurd (Option.isSome_of_eq_some configured_eq) unconfigured

theorem Tells.filterFrame (tells : Tells events f) (x : Frame) (w : World) :
    Tells events (f.filterFrame x w).2.1 := by
  cases tells with
  | idle settled idle =>
    rw [idle.filterFrame x w]
    exact .idle settled idle
  | holding settled events_eq descends holds =>
    obtain ⟨-, d, next, still⟩ := holds.filterFrame x w
    exact .holding settled events_eq (descends.trans next) still

theorem Tells.apply (tells : Tells events f) (call : Call κ) (w : World) :
    Tells (events ++ (call.applyTold f w).2) (call.apply f w).2.1 := by
  rw [← Call.applyTold_fst]
  cases call with
  | configOutput runtime link outFormat => exact tells.configOutput runtime link outFormat w
  | filterFrame frame =>
    simp only [Call.applyTold, List.append_nil]
    exact tells.filterFrame frame w
  | uninit =>
    obtain ⟨settled, idle⟩ := tells.uninit w
    exact .idle settled idle

theorem Tells.afterCalls (tells : Tells events f) (calls : List (Call κ × World)) :
    Tells (events ++ f.told calls) (f.afterCalls calls) := by
  induction calls generalizing f events with
  | nil =>
    rw [told, List.append_nil]
    exact tells
  | cons entry calls ih =>
    obtain ⟨call, w⟩ := entry
    have later := ih (tells.apply call w)
    rwa [List.append_assoc] at later

/-- Dropping a filter does no more than stopping it, which settles everything. -/
theorem Tells.drop (tells : Tells events f) (w : World) :
    (f.dropTold w).1 = (f.uninit w).2 ∧ Settled (events ++ (f.dropTold w).2) := by
  obtain ⟨settled, idle⟩ := tells.uninit w
  obtain ⟨g, same, next⟩ := idle.stopTold (f.uninitTold w).1.2
  have told_eq : (f.dropTold w).2 = (f.uninitTold w).2 := by
    simp only [dropTold, same, releases, next.configured_eq, Option.toList_none, List.map_nil,
      List.append_nil]
  rw [told_eq]
  refine ⟨?_, settled⟩
  rw [← uninitTold_fst]
  simp only [dropTold, same]

/-! ### As good as new -/

structure Kept (f g : ScaleFilter κ) : Prop where
  config_eq : g.config = f.config
  device_eq : g.device = f.device

theorem kept_configure (f : ScaleFilter κ) (runtime : Runtime κ) (link : InputLink)
    (outFormat : PixelFormat) (w : World) :
    Kept f (f.configure runtime link outFormat w).2.1 := by
  unfold configure
  split
  · exact ⟨rfl, rfl⟩
  · simp only
    split <;> exact ⟨rfl, rfl⟩

theorem kept_configOutput (f : ScaleFilter κ) (runtime : Runtime κ) (link : InputLink)
    (outFormat : PixelFormat) (w : World) :
    Kept f (f.configOutput runtime link outFormat w).2.1 := by
  unfold configOutput
  cases f.checkFormats link outFormat with
  | error e => exact ⟨rfl, rfl⟩
  | ok =>
    by_cases configured : f.configured.isSome = true
    · simp only [configured, if_true]
      have kept := kept_configure (f.uninit w).1 runtime link outFormat (f.uninit w).2
      exact ⟨kept.config_eq, kept.device_eq⟩
    · simp only [configured, Bool.false_eq_true, if_false]
      exact kept_configure f runtime link outFormat w

theorem kept_filterFrame (f : ScaleFilter κ) (x : Frame) (w : World) :
    Kept f (f.filterFrame x w).2.1 := by
  obtain ⟨scaler, configured, config, device⟩ := f
  simp only [ScaleFilter.filterFrame, convert]
  -- Only the scaler changes, and only when the picture has been brought onto a surface.
  cases configured with
  | none => exact ⟨rfl, rfl⟩
  | some c =>
    simp only
    split
    · exact ⟨rfl, rfl⟩
    split
    · exact ⟨rfl, rfl⟩
    split <;> exact ⟨rfl, rfl⟩

theorem kept_uninit (f : ScaleFilter κ) (w : World) : Kept f (f.uninit w).1 :=
  ⟨rfl, rfl⟩

theorem kept_afterCalls (f : ScaleFilter κ) (calls : List (Call κ × World)) :
    Kept f (f.afterCalls calls) := by
  induction calls generalizing f with
  | nil => exact ⟨rfl, rfl⟩
  | cons entry calls ih =>
    obtain ⟨call, w⟩ := entry
    have one : Kept f (call.apply f w).2.1 := by
      cases call with
      | configOutput runtime link outFormat => exact kept_configOutput f runtime link outFormat w
      | filterFrame frame => exact kept_filterFrame f frame w
      | uninit => exact kept_uninit f w
    have later := ih (call.apply f w).2.1
    exact ⟨later.config_eq.trans one.config_eq, later.device_eq.trans one.device_eq⟩

/-- Is there no telling two filters apart by what they do from now on? -/
inductive Like (f g : ScaleFilter κ) : Prop where
  | same (eq : f = g)
  | idle (left : f.Idle) (right : g.Idle) (config_eq : f.config = g.config)
    (device_eq : f.device = g.device)

/-- Do two calls end alike, up to filters that there is no telling apart? -/
def EndAlike {α : Type} (a b : α × ScaleFilter κ × World) : Prop :=
  a.1 = b.1 ∧ a.2.2 = b.2.2 ∧ Like a.2.1 b.2.1

/-- Idle filters with one configuration are set up alike: what is left of the scalers from before
is thrown away. -/
theorem endAlike_configOutput (left : f.Idle) (right : g.Idle) (config_eq : f.config = g.config)
    (device_eq : f.device = g.device) (runtime : Runtime κ) (link : InputLink)
    (outFormat : PixelFormat) (w : World) :
    EndAlike (f.configOutput runtime link outFormat w)
      (g.configOutput runtime link outFormat w) := by
  have like : Like f g := .idle left right config_eq device_eq
  obtain ⟨scaler₁, configured₁, config, device⟩ := f
  obtain ⟨scaler₂, configured₂, _, _⟩ := g
  cases config_eq
  cases device_eq
  cases left.configured_eq
  cases right.configured_eq
  have check_eq : (⟨scaler₁, none, config, device⟩ : ScaleFilter κ).checkFormats link outFormat
      = (⟨scaler₂, none, config, device⟩ : ScaleFilter κ).checkFormats link outFormat := rfl
  have plan_eq : (⟨scaler₁, none, config, device⟩ : ScaleFilter κ).plan runtime link outFormat w
      = (⟨scaler₂, none, config, device⟩ : ScaleFilter κ).plan runtime link outFormat w := rfl
  unfold configOutput
  rw [check_eq]
  cases (⟨scaler₂, none, config, device⟩ : ScaleFilter κ).checkFormats link outFormat with
  | error e => exact ⟨rfl, rfl, like⟩
  | ok =>
    simp only [Option.isSome_none, Bool.false_eq_true, if_false, configure, plan_eq]
    rcases (⟨scaler₂, none, config, device⟩ : ScaleFilter κ).plan runtime link outFormat w
      with e | ⟨⟨size, setup⟩, v⟩
    · exact ⟨rfl, rfl, like⟩
    · obtain ⟨t₁, ended₁, -⟩ := Scaler.terminateTold_of_none left.component_eq v.media
      obtain ⟨t₂, ended₂, -⟩ := Scaler.terminateTold_of_none right.component_eq v.media
      simp only at ended₁ ended₂
      simp only [← Scaler.terminateTold_fst, ended₁, ended₂]
      exact ⟨rfl, rfl, .same rfl⟩

theorem Like.apply (like : Like f g) (call : Call κ) (w : World) :
    EndAlike (call.apply f w) (call.apply g w) := by
  cases like with
  | same eq => exact ⟨by rw [eq], by rw [eq], .same (by rw [eq])⟩
  | idle left right config_eq device_eq =>
    cases call with
    | configOutput runtime link outFormat =>
      obtain ⟨result_eq, world_eq, next⟩ :=
        endAlike_configOutput left right config_eq device_eq runtime link outFormat w
      exact ⟨congrArg CallResult.link result_eq, world_eq, next⟩
    | filterFrame frame =>
      simp only [Call.apply, left.filterFrame, right.filterFrame]
      exact ⟨rfl, rfl, .idle left right config_eq device_eq⟩
    | uninit =>
      obtain ⟨f', stopped₁, idle₁⟩ := left.uninitTold w
      obtain ⟨g', stopped₂, idle₂⟩ := right.uninitTold w
      have same₁ : f.uninit w = (f', w) := by rw [← uninitTold_fst, stopped₁]
      have same₂ : g.uninit w = (g', w) := by rw [← uninitTold_fst, stopped₂]
      have kept₁ := kept_uninit f w
      have kept₂ := kept_uninit g w
      simp only [same₁, same₂] at kept₁ kept₂
      simp only [Call.apply, same₁, same₂]
      exact ⟨rfl, rfl, .idle idle₁ idle₂
        (kept₁.config_eq.trans (config_eq.trans kept₂.config_eq.symm))
        (kept₁.device_eq.trans (device_eq.trans kept₂.device_eq.symm))⟩

theorem Like.results_eq (like : Like f g) (calls : List (Call κ × World)) :
    f.results calls = g.results calls := by
  induction calls generalizing f g with
  | nil => rfl
  | cons entry calls ih =>
    obtain ⟨call, w⟩ := entry
    obtain ⟨result_eq, world_eq, next⟩ := like.apply call w
    simp only [results, result_eq, world_eq, ih next]

/-! ### The lifecycle -/

theorem Tells.idle_or_holds (tells : Tells events f) :
    f.Idle ∨ ∃ setup c, f.Holds setup c := by
  cases tells with
  | idle _ idle => exact .inl idle
  | holding _ _ _ holds => exact .inr ⟨_, _, holds⟩

omit [Component κ] in
theorem idle_new (config : ScaleConfig) (device : Option Device) :
    (⟨.new, none, config, device⟩ : ScaleFilter κ).Idle :=
  ⟨rfl, rfl, rfl⟩

theorem Idle.of_configure_error (idle : f.Idle) {runtime : Runtime κ} {link : InputLink}
    {outFormat : PixelFormat} {w v : World} {e : Error}
    (failed : f.configure runtime link outFormat w = (.error e, g, v)) : g.Idle := by
  rw [← configureTold_fst] at failed
  obtain ⟨_, _, _, same, next⟩ | ⟨_, _, _, _, same, next⟩ | ⟨_, _, _, _, _, same, -⟩ :=
    idle.configureTold runtime link outFormat w
  · rw [same] at failed
    cases failed
    exact next
  · rw [same] at failed
    cases failed
    exact next
  · rw [same] at failed
    cases failed

theorem Tells.idle_of_error (tells : Tells events f) {runtime : Runtime κ} {link : InputLink}
    {outFormat : PixelFormat} {w v : World} {e : Error}
    (offered : f.checkFormats link outFormat = .ok ())
    (failed : f.configOutput runtime link outFormat w = (.error e, g, v)) : g.Idle := by
  simp only [ScaleFilter.configOutput, offered] at failed
  by_cases configured : f.configured.isSome = true
  · simp only [configured, if_true] at failed
    have stopped := (tells.uninit w).2
    rw [uninitTold_fst] at stopped
    exact stopped.of_configure_error failed
  · simp only [configured, Bool.false_eq_true, if_false] at failed
    obtain idle | ⟨setup, c, holds⟩ := tells.idle_or_holds
    · exact idle.of_configure_error failed
    · obtain ⟨output, configured_eq⟩ := holds.configured_eq
      exact absurd (Option.isSome_of_eq_some configured_eq) configured

/-- Whatever runtime and components do, after any calls of a new filter: it has an output link
exactly when it holds a component, and exactly when that takes surfaces; without a link frames are
turned away; formats that are not on offer change nothing, and after any other error the filter
is without a link and as good as new; and when it is dropped, every component that was started has
been terminated once, before its setup was given up. -/
theorem lifecycle {config : ScaleConfig} {device : Option Device}
    (made : init config device = .ok f) (calls : List (Call κ × World)) :
    ((f.afterCalls calls).configured.isSome = (f.afterCalls calls).scaler.component.isSome ∧
      (f.afterCalls calls).configured.isSome = (f.afterCalls calls).scaler.isReady) ∧
    (∀ x w, ((f.afterCalls calls).filterFrame x w).1 = .error (.refused .notConfigured) ↔
      (f.afterCalls calls).configured = none) ∧
    (∀ runtime link outFormat w e, (f.afterCalls calls).checkFormats link outFormat = .error e →
      (f.afterCalls calls).configOutput runtime link outFormat w
        = (.error e, f.afterCalls calls, w)) ∧
    (∀ runtime link outFormat w e g v,
      (f.afterCalls calls).checkFormats link outFormat = .ok () →
      (f.afterCalls calls).configOutput runtime link outFormat w = (.error e, g, v) →
        g.configured = none ∧ ∀ later, g.results later = f.results later) ∧
    -- What is told goes with the calls themselves.
    (∀ (call : Call κ) w,
      (call.applyTold (f.afterCalls calls) w).1 = call.apply (f.afterCalls calls) w) ∧
    ∀ w, ((f.afterCalls calls).dropTold w).1 = ((f.afterCalls calls).uninit w).2 ∧
      Settled (f.told calls ++ ((f.afterCalls calls).dropTold w).2) := by
  obtain rfl := init_ok made
  have tells : Tells ((⟨.new, none, config, device⟩ : ScaleFilter κ).told calls) _ :=
    Tells.afterCalls (.idle .nil (idle_new config device)) calls
  have kept := kept_afterCalls (⟨.new, none, config, device⟩ : ScaleFilter κ) calls
  generalize (⟨.new, none, config, device⟩ : ScaleFilter κ).afterCalls calls = g at tells kept ⊢
  refine ⟨?_, fun x w => ?_, ?_, ?_, fun call w => call.applyTold_fst g w, tells.drop⟩
  · obtain idle | ⟨setup, c, holds⟩ := tells.idle_or_holds
    · simp only [idle.configured_eq, idle.component_eq, idle.isReady_eq, Option.isSome_none,
        and_self]
    · obtain ⟨output, configured_eq⟩ := holds.configured_eq
      simp only [configured_eq, holds.component_eq, holds.isReady_eq, Option.isSome_some, and_self]
  · obtain idle | ⟨setup, c, holds⟩ := tells.idle_or_holds
    · simp only [idle.filterFrame, idle.configured_eq]
    · obtain ⟨output, configured_eq⟩ := holds.configured_eq
      exact iff_of_false (holds.filterFrame x w).1 (by simp [configured_eq])
  · intro runtime link outFormat w e rejected
    simp only [configOutput, rejected]
  · intro runtime link outFormat w e h v offered failed
    have idle := tells.idle_of_error offered failed
    have same := kept_configOutput g runtime link outFormat w
    rw [failed] at same
    refine ⟨idle.configured_eq, (Like.idle idle (idle_new config device) ?_ ?_).results_eq⟩
    · exact same.config_eq.trans kept.config_eq
    · exact same.device_eq.trans kept.device_eq

theorem dxva2Link_lifecycle :
    ∃ f : ScaleFilter Converter, init {} none = .ok f ∧
      let calls := [(.configOutput softwareRuntime dxva2Link .dxva2, .empty),
        (.filterFrame dxva2Frame, dxva2World)]
      (f.afterCalls calls).configured.isSome = (f.afterCalls calls).scaler.component.isSome ∧
        Settled (f.told calls ++ ((f.afterCalls calls).dropTold .empty).2) := by
  have made : init {} none = .ok (⟨.new, none, {}, none⟩ : ScaleFilter Converter) := by
    rw [init, Dimensions.validate_default]
    rfl
  exact ⟨_, made, (lifecycle made _).1.1, ((lifecycle made _).2.2.2.2.2 _).2⟩

end ScaleFilter

end VideoScaler
