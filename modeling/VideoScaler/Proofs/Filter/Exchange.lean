import VideoScaler.Proofs.Component.Polling
import VideoScaler.Proofs.Filter.Layout
import VideoScaler.Proofs.Filter.Lifecycle

/-! One frame through a filter, whatever its component answers.

The component is given the frame's surface once, and if it takes it, it is asked for a result
until it does not put it off. Whichever way this ends, the input frame is dropped, and with it
every buffer that nobody else has a copy of.
-/

set_option autoImplicit false

namespace VideoScaler

namespace Bridge

variable {w : World} {b : FrameBuffer} {before : BufferState}

theorem get?_toFrame (pool : FramePool) (s : Surface)
    (found : w.buffers.get? b = some before) :
    (toFrame pool s w).2.buffers.get? b = some before := by
  unfold toFrame
  split
  case h_1 => exact Arena.get?_add_of_some found _
  case h_2 | h_3 =>
    split
    case h_1 => exact found
    case h_2 => exact Arena.get?_add_of_some found _
  case h_4 => exact found

end Bridge

variable {κ : Type} [Component κ]

theorem Scaler.process_eq_exchange {scaler : Scaler κ} {c : κ} (holds : scaler.component = some c)
    (isReady : scaler.isReady = true) (s : Surface) (m : Media) :
    scaler.process s m =
      ((exchange c s m).1,
        ⟨some (exchange c s m).2.1, .running,
          scaler.frames + if (exchange c s m).1.isOk = true then 1 else 0⟩,
        (exchange c s m).2.2) := by
  simp only [process, holds, isReady, if_true]
  rcases exchange c s m with ⟨_ | _, d, n⟩ <;> rfl

namespace ScaleFilter

section
variable {f : ScaleFilter κ} {x : Frame} {w : World} {b : FrameBuffer} {before : BufferState}

theorem get?_convert (found : w.buffers.get? b = some before) :
    (f.convert x w).2.2.buffers.get? b = some before := by
  unfold convert
  split
  case h_1 => exact found
  case h_2 c _ =>
    have brought := Bridge.buffers_toSurface c.setup.source.context x w
    rw [← brought] at found
    split
    case h_1 same =>
      rw [same] at found
      exact found
    case h_2 s v same =>
      rw [same] at found
      simp only
      split
      case h_1 => exact found
      case h_2 made _ =>
        have framed := Bridge.get?_toFrame c.output.pool made
          (w := { v with media := (f.scaler.process s v.media).2.2 }) found
        split
        case h_1 shown =>
          rw [shown] at framed
          exact framed
        case h_2 shown =>
          rw [shown] at framed
          exact framed

theorem get?_filterFrame_sole (sole : w.Sole x b before) :
    (f.filterFrame x w).2.2.buffers.get? b = some ⟨none, 0, true, 1⟩ := by
  have still : (f.convert x w).2.2.Sole x b before := { sole with found := get?_convert sole.found }
  exact still.dropFrame

variable {setup : Setup} {output : OutputLink} {s : Surface} {v : World}

/-- A frame that has been brought onto a surface is what the component makes of this surface, put
into a frame of the pool. -/
theorem filterFrame_of_toSurface (configured : f.configured = some ⟨setup, output⟩)
    (brought : Bridge.toSurface setup.source.context x w = (.ok s, v)) :
    (f.filterFrame x w).2.1.scaler = (f.scaler.process s v.media).2.1 ∧
      (f.filterFrame x w).1 = (f.scaler.process s v.media).1.bind fun made =>
        (Bridge.toFrame output.pool made
          { v with media := (f.scaler.process s v.media).2.2 }).1.map
            (finishFrame f.config output x) := by
  simp only [filterFrame, convert, configured, brought]
  rcases f.scaler.process s v.media with ⟨failure | made, scaler, m⟩
  · exact ⟨rfl, rfl⟩
  · simp only [Except.bind]
    rcases Bridge.toFrame output.pool made { v with media := m } with ⟨failure | frame, u⟩
    · exact ⟨rfl, rfl⟩
    · exact ⟨rfl, rfl⟩

theorem Holds.filterFrame_of_toSurface {c : κ} (holds : f.Holds setup c)
    (configured : f.configured = some ⟨setup, output⟩)
    (brought : Bridge.toSurface setup.source.context x w = (.ok s, v)) :
    (f.filterFrame x w).2.1.scaler =
        ⟨some (Scaler.exchange c s v.media).2.1, .running,
          f.scaler.frames + if (Scaler.exchange c s v.media).1.isOk = true then 1 else 0⟩ ∧
      (f.filterFrame x w).1 = (Scaler.exchange c s v.media).1.bind fun made =>
        (Bridge.toFrame output.pool made
          { v with media := (Scaler.exchange c s v.media).2.2 }).1.map
            (finishFrame f.config output x) := by
  obtain ⟨scaler_eq, result_eq⟩ := ScaleFilter.filterFrame_of_toSurface configured brought
  rw [Scaler.process_eq_exchange holds.component_eq holds.isReady_eq] at scaler_eq result_eq
  exact ⟨scaler_eq, result_eq⟩

end

theorem holds_of_configured {f g : ScaleFilter κ} {config : ScaleConfig} {device : Option Device}
    {calls : List (Call κ × World)} {setup : Setup} {output : OutputLink}
    (made : init config device = .ok f) (reached : f.afterCalls calls = g)
    (configured : g.configured = some ⟨setup, output⟩) : ∃ c, g.Holds setup c := by
  obtain rfl := init_ok made
  have tells : Tells _ g := reached ▸ Tells.afterCalls (.idle .nil (idle_new config device)) calls
  obtain idle | ⟨other, c, holds⟩ := tells.idle_or_holds
  · rw [idle.configured_eq] at configured
    cases configured
  · obtain ⟨_, configured_eq⟩ := holds.configured_eq
    rw [configured] at configured_eq
    cases configured_eq
    exact ⟨c, holds⟩

/-- Whatever a component does, and whatever has become of a filter that has an output link: a
frame that is brought onto a surface is handed to the component once, and an error of the component
is told by the call that it comes from. If the component takes the surface in and puts its result
off a number of times, it is asked once more than that. Only a surface that it hands out counts as
converted, and this very surface is put into the output frame. Every buffer that nobody else has a
copy of has told its maker once that it was given up. -/
theorem exchanges_once {κ : Type} (conduct : Conduct κ) (limit : Nat) {config : ScaleConfig}
    {device : Option Device} {f g : ScaleFilter (Watched conduct limit)}
    {calls : List (Call (Watched conduct limit) × World)} {setup : Setup} {output : OutputLink}
    {x : Frame} {w v : World} {s : Surface} (made : init config device = .ok f)
    (reached : f.afterCalls calls = g) (configured : g.configured = some ⟨setup, output⟩)
    (brought : Bridge.toSurface setup.source.context x w = (.ok s, v)) :
    ∃ c, g.scaler.component = some c ∧
      (∀ status d n,
        conduct.submit c.inner (.surface s) v.media = (.error (.refused status), d, n) →
        (g.filterFrame x w).1 = .error (.refused (.operation "SubmitInput" status)) ∧
        (g.filterFrame x w).2.1.scaler.component = some ⟨d, limit, c.calls ++ [.submit]⟩ ∧
        (g.filterFrame x w).2.1.scaler.frames = g.scaler.frames) ∧
      (∀ k answer d n e o, conduct.submit c.inner (.surface s) v.media = (.ok (), d, n) →
        conduct.Answers k d n (answer, e, o) → k ≤ limit →
        (g.filterFrame x w).2.1.scaler.component =
          some ⟨e, limit, c.calls ++ .submit :: List.replicate (k + 1) .query⟩ ∧
        (∀ status, answer = .error status →
          (g.filterFrame x w).1 = .error (.refused (.operation "QueryOutput" status)) ∧
          (g.filterFrame x w).2.1.scaler.frames = g.scaler.frames) ∧
        (∀ bytes, answer = .ok (.buffer bytes) →
          (g.filterFrame x w).1 = .error (.refused (.operation "QueryOutput" .noInterface)) ∧
          (g.filterFrame x w).2.1.scaler.frames = g.scaler.frames) ∧
        ∀ result, answer = .ok (.surface result) →
          (g.filterFrame x w).1 = (Bridge.toFrame output.pool result { v with media := o }).1.map
            (finishFrame g.config output x) ∧
          (g.filterFrame x w).2.1.scaler.frames = g.scaler.frames + 1) ∧
      ∀ b before, w.Sole x b before →
        (g.filterFrame x w).2.2.buffers.get? b = some ⟨none, 0, true, 1⟩ := by
  obtain ⟨c, holds⟩ := holds_of_configured made reached configured
  obtain ⟨scaler_eq, result_eq⟩ := holds.filterFrame_of_toSurface configured brought
  refine ⟨c, holds.component_eq, fun status d n submitted => ?_,
    fun k answer d n e o submitted answers few => ?_, fun b before => get?_filterFrame_sole⟩
  · rw [Scaler.exchange_of_refused (Watched.submit_eq submitted)] at scaler_eq result_eq
    rw [scaler_eq, result_eq]
    exact ⟨rfl, rfl, rfl⟩
  · rw [Watched.exchange_of_answers submitted answers few] at scaler_eq result_eq
    rw [scaler_eq, result_eq]
    refine ⟨rfl, ?_, ?_, ?_⟩
    · rintro status rfl
      exact ⟨rfl, rfl⟩
    · rintro bytes rfl
      exact ⟨rfl, rfl⟩
    · rintro result rfl
      exact ⟨rfl, rfl⟩

/-- A component that hands back the surface it was given, after it has put this off twice. Without
a surface it puts its result off for good. -/
def hesitant : Conduct (Option Surface × Nat) where
  setProperty c _ _ := (.ok (), c)
  property? _ _ := none
  init c _ _ _ := (.ok (), c)
  submit
    | _, .surface s, m => (.ok (), (some s, 2), m)
    | c, .buffer _, m => (.error (.refused .noInterface), c, m)
  query
    | (some s, 0), m => (.ok (.surface s), (none, 0), m)
    | (held, left), m => (.error .repeatLater, (held, left - 1), m)
  terminate c m := (.ok (), c, m)
  discard c m := (c.1.map m.release).getD m

def hesitantRuntime : Runtime (Watched hesitant 2) where
  name := "hesitant"
  createContext := .ok .host
  deriveContext _ := .error .notSupported
  createComponent _ _ := .ok ⟨(none, 0), 2, []⟩

def amfLink : InputLink :=
  .ofPool ⟨⟨0⟩, ⟨.amf, .nv12, 4, 2⟩, .accelerator ⟨"hesitant", .host⟩⟩

def amfFrame : Frame :=
  { format := .amf, width := 4, height := 2, payload := some (.amf ⟨0⟩) }

def amfWorld : World :=
  let (s, media) := Media.empty.makeSurface .host .nv12 4 2 []
  ({ World.empty with media }.addBuffer s true).2

theorem amfLink_accepted : ∃ output g v,
    (⟨.new, none, {}, none⟩ : ScaleFilter (Watched hesitant 2)).configOutput hesitantRuntime
      amfLink .amf .empty = (.ok output, g, v) :=
  configOutput_of_plan rfl rfl
    (plan_of_resolve (Dimensions.resolve_four_by_two Ratio.unset .nv12 .nv12) rfl) rfl

theorem exchanges_once_hesitant :
    ∃ (g : ScaleFilter (Watched hesitant 2)) (c : Watched hesitant 2),
      g.scaler.component = some c ∧
      (g.filterFrame amfFrame amfWorld).2.1.scaler.component =
        some ⟨(none, 0), 2, c.calls ++ [.submit, .query, .query, .query]⟩ ∧
      (g.filterFrame amfFrame amfWorld).2.1.scaler.frames = g.scaler.frames + 1 ∧
      (g.filterFrame amfFrame amfWorld).2.2.buffers.get? ⟨0⟩ = some ⟨none, 0, true, 1⟩ := by
  obtain ⟨output, g, v, accepted⟩ := amfLink_accepted
  obtain ⟨setup, configured, -⟩ := decided_of_configOutput accepted
  have made : init {} none = .ok (⟨.new, none, {}, none⟩ : ScaleFilter (Watched hesitant 2)) := by
    rw [init, Dimensions.validate_default]
    rfl
  have reached : (⟨.new, none, {}, none⟩ : ScaleFilter (Watched hesitant 2)).afterCalls
      [(.configOutput hesitantRuntime amfLink .amf, .empty)] = g := by
    simp only [afterCalls, List.foldl_cons, List.foldl_nil, Call.apply, accepted]
  have sole : amfWorld.Sole amfFrame ⟨0⟩ _ := ⟨List.mem_cons_self, rfl, rfl, rfl, rfl⟩
  obtain ⟨c, holds, -, answered, told⟩ :=
    exchanges_once hesitant 2 (x := amfFrame) (w := amfWorld) made reached configured rfl
  obtain ⟨calls_eq, -, -, shown⟩ := answered 2 _ _ _ _ _ rfl
    (.later rfl (.later rfl (.now rfl))) (Nat.le_refl 2)
  exact ⟨g, c, holds, calls_eq, (shown _ rfl).2, told _ _ sole⟩

end ScaleFilter

end VideoScaler
