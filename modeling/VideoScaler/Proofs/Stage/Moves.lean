import VideoScaler.Stage.Basic

/-! What each of the parties at a stage can do, and when it has to wait. -/

set_option autoImplicit false

namespace VideoScaler.Stage

variable {κ : Type} {s t : Stage κ} {frame : Frame} {w v : World}

theorem send?_ok (accepted : s.send? frame w = some (.ok (), t, v)) :
    s.closed = false ∧ t = { s with input := s.input ++ [frame] } := by
  unfold send? at accepted
  split at accepted
  · cases accepted
  rename_i unended
  split at accepted <;> cases accepted
  simp only [Bool.or_eq_true, not_or, Bool.not_eq_true] at unended
  exact ⟨unended.1, rfl⟩

theorem send?_error {e : Error} (refused : s.send? frame w = some (.error e, t, v)) : t = s := by
  unfold send? at refused
  split at refused
  · cases refused
    rfl
  · split at refused <;> cases refused

/-- What it is to receive a result: from the queue, or out of the hand of the worker. -/
inductive Receives (s : Stage κ) (frame : Frame) : Stage κ → Prop where
  | queued {output : List Frame} (queue : s.output = frame :: output) :
    Receives s frame { s with output }
  | handed {filter : ScaleFilter κ} (queue : s.output = [])
    (place : s.worker = .sending filter frame) (hears : s.heard = true) :
    Receives s frame { s with worker := .waiting filter }

theorem receives_of_receive? (received : s.receive? = some (frame, t)) : Receives s frame t := by
  unfold receive? at received
  split at received
  case h_1 _ _ _ output queue =>
    cases received
    exact .queued queue
  case h_2 filter out queue place =>
    split at received <;> cases received
    rename_i hears
    exact .handed queue place hears
  case h_3 => cases received

theorem receive?_eq_none (nothing : s.receive? = none) :
    s.output = [] ∧ ∀ filter out, s.worker = .sending filter out → s.heard = false := by
  unfold receive? at nothing
  split at nothing
  case h_1 => cases nothing
  case h_2 filter out queue place =>
    split at nothing
    · cases nothing
    · rename_i silent
      exact ⟨queue, fun _ _ _ => Bool.not_eq_true _ ▸ silent⟩
  case h_3 queue other =>
    exact ⟨queue, fun filter out place => absurd place (other filter out)⟩

variable [Component κ]

inductive Works (s : Stage κ) (w : World) : Stage κ → World → Prop where
  | take {filter : ScaleFilter κ} {frame : Frame} {input : List Frame}
    (place : s.worker = .waiting filter) (queue : s.input = frame :: input) :
    Works s w { s with input, worker := .taken filter frame } w
  /-- The end of the input has been reached. -/
  | leave {filter : ScaleFilter κ} (place : s.worker = .waiting filter) (queue : s.input = [])
    (closed : s.closed = true) : Works s w { s with worker := .leaving filter .finished } w
  | countIn {filter : ScaleFilter κ} {frame : Frame} (place : s.worker = .taken filter frame) :
    Works s w { s with
      worker := .counted filter frame
      stats := { s.stats with received := s.stats.received + 1 } } w
  /-- The filter comes back with a result. -/
  | scale {filter : ScaleFilter κ} {frame : Frame} {result : Except Error Frame}
    (place : s.worker = .counted filter frame)
    (scaled : (filter.filterFrame frame w).1 = Attempt.ofExcept result) :
    Works s w { s with worker := .scaled (filter.filterFrame frame w).2.1 result }
      (filter.filterFrame frame w).2.2
  | breakDown {filter : ScaleFilter κ} {frame : Frame} {breach : Breach}
    (place : s.worker = .counted filter frame)
    (broke : (filter.filterFrame frame w).1 = .error (.broken breach)) :
    Works s w { s with worker := .leaving (filter.filterFrame frame w).2.1 .broken }
      (filter.filterFrame frame w).2.2
  | count {filter : ScaleFilter κ} {result : Except Error Frame}
    (place : s.worker = .scaled filter result) : Works s w (s.count filter result) w
  /-- Nobody is there to receive the result, nor any other. -/
  | breakOff {filter : ScaleFilter κ} {out : Frame} (place : s.worker = .sending filter out)
    (silent : s.heard = false) :
    Works s w { s with worker := .leaving filter .finished } (w.dropFrame out)
  | handOn {filter : ScaleFilter κ} {out : Frame} (place : s.worker = .sending filter out)
    (hears : s.heard = true) :
    Works s w { s with worker := .waiting filter, output := s.output ++ [out] } w
  | endWith {filter : ScaleFilter κ} {outcome : StageEnd}
    (place : s.worker = .leaving filter outcome) :
    Works s w (s.endWith filter outcome w).1 (s.endWith filter outcome w).2

theorem works_of_work? (worked : s.work? w = some (t, v)) : Works s w t v := by
  unfold work? at worked
  split at worked
  case h_1 filter place =>
    split at worked
    case h_1 frame input queue =>
      cases worked
      exact .take place queue
    case h_2 queue =>
      split at worked <;> cases worked
      rename_i closed
      exact .leave place queue closed
  case h_2 filter frame place =>
    cases worked
    exact .countIn place
  case h_3 filter frame place =>
    split at worked
    case h_1 out g _ scaled =>
      cases worked
      have result_eq : (filter.filterFrame frame w).1 = Attempt.ofExcept (.ok out) :=
        congrArg Prod.fst scaled
      have step := Works.scale place result_eq
      rwa [scaled] at step
    case h_2 e g _ refused =>
      cases worked
      have result_eq : (filter.filterFrame frame w).1 = Attempt.ofExcept (.error e) :=
        congrArg Prod.fst refused
      have step := Works.scale place result_eq
      rwa [refused] at step
    case h_3 breach g _ broke =>
      cases worked
      have step := Works.breakDown place (congrArg Prod.fst broke)
      rwa [broke] at step
  case h_4 filter result place =>
    cases worked
    exact .count place
  case h_5 filter out place =>
    split at worked
    case isTrue silent =>
      cases worked
      exact .breakOff place (by simpa using silent)
    case isFalse hears =>
      split at worked <;> cases worked
      exact .handOn place (by simpa using hears)
  case h_6 filter outcome place =>
    cases worked
    exact .endWith place
  case h_7 => cases worked

/-- The worker has to wait for a frame, for room, or for good. -/
inductive Waits (s : Stage κ) : Prop where
  | forFrame {filter : ScaleFilter κ} (place : s.worker = .waiting filter) (queue : s.input = [])
    (unclosed : s.closed = false)
  | forRoom {filter : ScaleFilter κ} {out : Frame} (place : s.worker = .sending filter out)
    (hears : s.heard = true) (full : ¬s.output.length < s.capacity)
  | forGood {outcome : StageEnd} (place : s.worker = .ended outcome)

theorem waits_of_work? (stuck : s.work? w = none) : s.Waits := by
  unfold work? at stuck
  split at stuck
  case h_1 filter place =>
    split at stuck
    · cases stuck
    · rename_i queue
      split at stuck
      · cases stuck
      · rename_i unclosed
        exact .forFrame place queue (by simpa using unclosed)
  case h_2 => cases stuck
  case h_3 => split at stuck <;> cases stuck
  case h_4 => cases stuck
  case h_5 filter out place =>
    split at stuck
    · cases stuck
    · rename_i hears
      split at stuck
      · cases stuck
      · rename_i full
        exact .forRoom place (by simpa using hears) full
  case h_6 => cases stuck
  case h_7 outcome place => exact .forGood place

theorem Waits.work?_eq_none (waits : s.Waits) (w : World) : s.work? w = none := by
  cases waits with
  | forFrame place queue unclosed =>
    simp only [work?, place, queue, unclosed, Bool.false_eq_true, if_false]
  | forRoom place hears full =>
    simp only [work?, place, hears, Bool.not_true, Bool.false_eq_true, if_false, if_neg full]
  | forGood place => simp only [work?, place]

end VideoScaler.Stage
