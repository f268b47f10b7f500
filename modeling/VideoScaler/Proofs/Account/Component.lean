import VideoScaler.Proofs.Account.Media
import VideoScaler.Proofs.Component.Converter

/-! Converters as holders of surfaces.

A converter holds the result that has not been handed out. It takes over the holder of the
data that it is given, also when it refuses the data.
-/

set_option autoImplicit false

namespace VideoScaler

def Data.surface? : Data → Option Surface
  | surface s => some s
  | buffer _ => none

def Scaler.pending (s : Scaler Converter) : Option Surface :=
  s.component.bind Converter.pending

variable {m n : Media} {held : Multiset (Ref SurfaceState)} {c d : Converter} {s : Surface}

namespace Media

theorem Accounts.discardData {data : Data} (accounts : m.Accounts (entries data.surface? + held)) :
    (data.discard m).Accounts held := by
  cases data with
  | surface s =>
    rw [Data.surface?, entries_some_add] at accounts
    exact accounts.release
  | buffer bytes =>
    rw [Data.surface?, entries_none_add] at accounts
    exact accounts

theorem Accounts.accept (accounts : m.Accounts held) {data : Data}
    {result : Attempt Status Surface} (accepted : c.accept data m = (result, n)) :
    n.Accounts (entries result.toOption + held) := by
  cases Converter.accepts_of_accept accepted with
  | unready | full | unfit => exact accounts.of_error _
  | unfilled => exact (accounts.makeSurface ..).release.of_error _
  | made =>
    rw [Except.toOption, entries_some_add]
    exact ((accounts.makeSurface ..).setPlanes ..).setPts ..

/-- Data is given up when it is taken in and when it is refused. -/
theorem Accounts.submit {data : Data} {result : Attempt Status Unit}
    (accounts : m.Accounts (entries data.surface? + (entries c.pending + held)))
    (submitted : c.submit data m = (result, d, n)) : n.Accounts (entries d.pending + held) := by
  unfold Converter.submit at submitted
  cases accepted : c.accept data m with
  | mk outcome k =>
    have after := accounts.accept accepted
    rw [add_left_comm] at after
    have given := after.discardData
    rw [accepted] at submitted
    cases outcome with
    | error failure =>
      cases submitted
      rwa [Except.toOption, entries_none_add] at given
    | ok output =>
      cases submitted
      rwa [Converter.idle_of_accept accepted, entries_none_add] at given

theorem Accounts.query {result : Except Status Data}
    (accounts : m.Accounts (entries c.pending + held)) (asked : c.query m = (result, d, n)) :
    n.Accounts (entries (result.toOption.bind Data.surface?) + (entries d.pending + held)) := by
  unfold Converter.query at asked
  cases pending : c.pending with
  | none =>
    rw [pending] at asked
    cases asked
    rwa [Except.toOption, Option.bind_none, entries_none_add]
  | some output =>
    rw [pending] at asked accounts
    cases asked
    rwa [entries_none_add]

theorem Accounts.discard (accounts : m.Accounts (entries c.pending + held)) :
    (c.discard m).Accounts held := by
  unfold Converter.discard
  cases pending : c.pending with
  | none => rwa [pending, entries_none_add] at accounts
  | some output =>
    rw [pending, entries_some_add] at accounts
    exact accounts.release

end Media

namespace Converter

theorem pending_createComponent {memory : MemoryType} {id : String}
    (made : softwareRuntime.createComponent memory id = .ok c) : c.pending = none := by
  unfold softwareRuntime at made
  simp only at made
  split at made <;> cases made
  rfl

theorem pending_setProperty (c : Converter) (name : String) (value : Variant) :
    (c.setProperty name value).2.pending = c.pending := by
  obtain ⟨properties, same⟩ := setProperty_eq c name value
  rw [same]

theorem pending_init (c : Converter) (format : SurfaceFormat) (width height : Int32) :
    (c.init format width height).2.pending = c.pending := by
  unfold init
  split
  · rfl
  split
  · rfl
  split <;> rfl

theorem pending_applySettings (c : Converter) (settings : List (String × Variant)) :
    (Scaler.applySettings c settings).2.pending = c.pending := by
  induction settings generalizing c with
  | nil => rfl
  | cons entry settings ih =>
    have kept := pending_setProperty c entry.1 entry.2
    unfold Scaler.applySettings
    split
    case h_1 next set =>
      have set : (c.setProperty entry.1 entry.2).2 = next := congrArg Prod.snd set
      rw [ih, ← set, kept]
    case h_2 next set =>
      have set : (c.setProperty entry.1 entry.2).2 = next := congrArg Prod.snd set
      rw [← set, kept]

theorem pending_prepare (c : Converter) (settings : List (String × Variant))
    (input : SurfaceFormat) (size : Resolution) :
    (Scaler.prepare c settings input size).2.pending = c.pending := by
  have applied := pending_applySettings c settings
  unfold Scaler.prepare
  split
  case h_1 e d failed =>
    rw [failed] at applied
    exact applied
  case h_2 d set =>
    rw [set] at applied
    have started := pending_init d input size.width.toInt32 size.height.toInt32
    split
    case h_1 k done =>
      have done : (d.init input size.width.toInt32 size.height.toInt32).2 = k :=
        congrArg Prod.snd done
      rw [← applied, ← started, done]
    case h_2 status k failed =>
      have failed : (d.init input size.width.toInt32 size.height.toInt32).2 = k :=
        congrArg Prod.snd failed
      rw [← applied, ← started, failed]

end Converter

namespace Scaler

variable {scaler : Scaler Converter}

theorem configure_new (context : DeviceContext) (outFormat : PixelFormat) (outSize : Resolution)
    (config : ScaleConfig) (inFormat : PixelFormat) (inSize : Resolution) (m : Media) :
    ((Scaler.new : Scaler Converter).configure softwareRuntime context outFormat outSize config
        inFormat inSize m).2.2 = m ∧
      ((Scaler.new : Scaler Converter).configure softwareRuntime context outFormat outSize config
        inFormat inSize m).2.1.pending = none := by
  have made : context.createComponent softwareRuntime converterName
      = .ok (Converter.new context.memory) := rfl
  unfold Scaler.configure
  split
  · exact ⟨rfl, rfl⟩
  split
  · exact ⟨rfl, rfl⟩
  split
  · exact ⟨rfl, rfl⟩
  rw [made]
  have idle := Converter.pending_prepare (.new context.memory)
    (settings config (.ofPixelFormat outFormat) outSize) (.ofPixelFormat inFormat) inSize
  simp only
  split
  case h_1 e c failed =>
    rw [failed] at idle
    refine ⟨?_, rfl⟩
    show c.discard m = m
    unfold Converter.discard
    rw [idle]
    rfl
  case h_2 c prepared =>
    rw [prepared] at idle
    exact ⟨rfl, idle⟩

theorem exchange_cases {result : Attempt Error Surface}
    (exchanged : exchange c s m = (result, d, n)) :
    d = c ∧ ∃ outcome k, c.accept (.surface s) m = (outcome, k) ∧ n = k.release s ∧
      result.toOption = outcome.toOption := by
  cases accepted : c.accept (.surface s) m with
  | mk outcome k =>
    cases outcome with
    | error failure =>
      rw [Converter.exchange_of_accept_error accepted] at exchanged
      cases exchanged
      exact ⟨rfl, _, _, rfl, rfl, rfl⟩
    | ok output =>
      rw [Converter.exchange_of_accept_ok (Converter.idle_of_accept accepted) accepted] at exchanged
      cases exchanged
      exact ⟨rfl, _, _, rfl, rfl, rfl⟩

/-- A scaler gives up the surface it is given, and hands on what its converter makes of it. What
waits at the converter goes on waiting. -/
theorem process_cases {next : Scaler Converter} {result : Attempt Error Surface}
    (processed : scaler.process s m = (result, next, n)) :
    next.pending = scaler.pending ∧ ((result.toOption = none ∧ n = m.release s) ∨
      ∃ c outcome k, Converter.accept c (.surface s) m = (outcome, k) ∧ n = k.release s ∧
        result.toOption = outcome.toOption) := by
  unfold process at processed
  cases component : scaler.component with
  | none =>
    rw [component] at processed
    cases processed
    exact ⟨rfl, .inl ⟨rfl, rfl⟩⟩
  | some c =>
    have waiting : scaler.pending = c.pending := by rw [pending, component, Option.bind_some]
    rw [component] at processed
    simp only at processed
    split at processed
    case isFalse =>
      cases processed
      exact ⟨rfl, .inl ⟨rfl, rfl⟩⟩
    case isTrue =>
      split at processed
      case h_1 output d k exchanged =>
        obtain ⟨rfl, answer⟩ := exchange_cases exchanged
        cases processed
        exact ⟨waiting.symm, .inr ⟨_, answer⟩⟩
      case h_2 failure d k exchanged =>
        obtain ⟨rfl, answer⟩ := exchange_cases exchanged
        cases processed
        exact ⟨waiting.symm, .inr ⟨_, answer⟩⟩

end Scaler

namespace Media

variable {scaler next : Scaler Converter} {output : Surface}

theorem Accounts.process {result : Attempt Error Surface}
    (accounts : m.Accounts (s.ref ::ₘ held)) (processed : scaler.process s m = (result, next, n)) :
    n.Accounts (entries result.toOption + held) := by
  obtain ⟨-, ⟨none, rfl⟩ | ⟨c, outcome, k, accepted, rfl, same⟩⟩ := Scaler.process_cases processed
  · rw [none, entries_none_add]
    exact accounts.release
  · have after := accounts.accept accepted
    rw [Multiset.add_cons] at after
    rw [same]
    exact after.release

theorem Accounts.terminate (accounts : m.Accounts (entries scaler.pending + held)) :
    (scaler.terminate m).2.Accounts held ∧ (scaler.terminate m).1.pending = none := by
  unfold Scaler.terminate
  cases component : scaler.component with
  | none =>
    rw [Scaler.pending, component, Option.bind_none, entries_none_add] at accounts
    exact ⟨accounts, rfl⟩
  | some c =>
    rw [Scaler.pending, component, Option.bind_some] at accounts
    exact ⟨accounts.discard, rfl⟩

theorem created_accept {data : Data} (accepted : c.accept data m = (.ok output, n)) :
    n.created = m.created + 1 := by
  cases Converter.accepts_of_accept accepted with
  | made => exact (created_setPlanes ..).trans (created_makeSurface ..)

theorem created_process (processed : scaler.process s m = (.ok output, next, n)) :
    n.created = m.created + 1 := by
  obtain ⟨-, ⟨none, -⟩ | ⟨c, outcome, k, accepted, rfl, same⟩⟩ := Scaler.process_cases processed
  · cases none
  · cases outcome with
    | error failure => cases same
    | ok made => rw [created_release, created_accept accepted]

theorem created_terminate (scaler : Scaler Converter) (m : Media) :
    (scaler.terminate m).2.created = m.created := by
  unfold Scaler.terminate
  cases scaler.component with
  | none => rfl
  | some c =>
    show (c.discard m).created = _
    unfold Converter.discard
    split
    · exact created_release ..
    · rfl

end Media

end VideoScaler
