import VideoScaler.Proofs.Filter.Payload
import VideoScaler.Proofs.Stage.Ending

/-! What a sender and a receiver can rely on.

The frames at the far end of a stage are those the filter makes of the frames at the near end,
in the same order, up to the first error that concerns more than one frame. Joining the stage
waits for the last of them and tells that error, or else how many there were.
-/

set_option autoImplicit false

namespace VideoScaler

variable {κ : Type} [Component κ]

theorem Filters.of_prefix {f g : ScaleFilter κ} {frames : List Frame}
    {results rs : List (Attempt Error Frame)} (filters : Filters f frames results g)
    (part : rs <+: results) : ∃ fs, fs <+: frames ∧ ∃ g', Filters f fs rs g' := by
  induction filters with
  | nil =>
    obtain rfl := List.prefix_nil.1 part
    exact ⟨[], List.prefix_rfl, f, .nil⟩
  | @snoc frames results g before frame w ih =>
    rcases List.prefix_concat_iff.1 part with rfl | part
    · exact ⟨_, List.prefix_rfl, _, before.snoc frame w⟩
    · obtain ⟨fs, fewer, g', filters⟩ := ih part
      exact ⟨fs, fewer.trans (List.prefix_append ..), g', filters⟩

namespace StageHistory

/-- What is seen at a stage comes from giving these frames to the filter, with these results. -/
structure Explains (f : ScaleFilter κ) (done : List Frame) (results : List (Attempt Error Frame))
    (h : StageHistory κ) : Prop where
  processed : done <+: h.sent
  filters : ∃ g, Filters f done results g
  /-- What was received, is queued and is about to be sent, in this order, are the frames among
  the results. -/
  emitted : h.stage.heard = true →
    h.received ++ h.stage.output ++ h.stage.worker.hand = framesOf results
  /-- Without a receiver the results go nowhere. Those that were received are still the ones of
  the first frames. -/
  unheard : h.stage.heard = false →
    h.stage.output = [] ∧
      ∃ part rs, part <+: done ∧ rs <+: results ∧ (∃ g, Filters f part rs g) ∧
        h.received = framesOf rs
  inFlight : h.stage.stats.received = h.stage.stats.forwarded + h.stage.stats.failed ∨
    h.stage.stats.received = h.stage.stats.forwarded + h.stage.stats.failed + 1
  settled : (∀ breach, .error (.broken breach) ∉ results) → h.stage.hasEnded = true →
    h.stage.stats.received = h.stage.stats.forwarded + h.stage.stats.failed
  /-- A worker that no error has stopped counts every frame among the results. -/
  joined : (∀ r ∈ results, Passes r) → h.stage.hasEnded = true → ∀ w,
    (h.stage.drain w).1.outcome = .ok h.stage.stats ∧
      h.stage.stats.forwarded = (framesOf results).length
  /-- It ends only when the input does, unless nobody receives its results any more. -/
  complete : (∀ r ∈ results, Passes r) → h.stage.hasEnded = true → h.stage.heard = true →
    h.stage.closed = true ∧ done = h.sent

variable {f : ScaleFilter κ} {done : List Frame} {results : List (Attempt Error Frame)}
  {h : StageHistory κ}

theorem eq_last_of_stops {earlier : List (Attempt Error Frame)} {last r : Attempt Error Frame}
    (passed : ∀ r ∈ earlier, Passes r) (member : r ∈ earlier ++ [last]) (stops : ¬Passes r) :
    r = last := by
  rcases List.mem_append.1 member with member | member
  · exact absurd (passed r member) stops
  · exact List.mem_singleton.1 member

theorem Tracks.last (tracks : Tracks f done results h) :
    (∀ r ∈ results, Passes r) ∨
      ∃ earlier last, results = earlier ++ [last] ∧ ∀ r ∈ earlier, Passes r := by
  have heeds := tracks.heeds
  unfold StageWorker.Heeds at heeds
  split at heeds
  case h_1 =>
    obtain ⟨earlier, results_eq, passed⟩ := heeds
    exact .inr ⟨earlier, _, results_eq, passed⟩
  case h_2 | h_3 =>
    obtain ⟨earlier, results_eq, -, passed⟩ := heeds
    exact .inr ⟨earlier, _, results_eq, passed⟩
  case h_4 | h_5 =>
    obtain ⟨earlier, _, results_eq, passed⟩ := heeds
    exact .inr ⟨earlier, _, results_eq, passed⟩
  case h_6 => exact .inl heeds

theorem Tracks.eq_concat_of_stops (tracks : Tracks f done results h) {r : Attempt Error Frame}
    (member : r ∈ results) (stops : ¬Passes r) :
    ∃ earlier, results = earlier ++ [r] ∧ ∀ r ∈ earlier, Passes r := by
  obtain passed | ⟨earlier, last, rfl, passed⟩ := tracks.last
  · exact absurd (passed r member) stops
  · obtain rfl := eq_last_of_stops passed member stops
    exact ⟨earlier, rfl, passed⟩

theorem Tracks.ended_finished (tracks : Tracks f done results h)
    (passed : ∀ r ∈ results, Passes r) (ended : h.stage.hasEnded = true) :
    h.stage.worker = .ended .finished := by
  obtain ⟨outcome, place⟩ := Stage.exists_ended ended
  have heeds := tracks.heeds
  rw [place] at heeds
  cases outcome with
  | finished => exact place
  | stopped e =>
    obtain ⟨earlier, rfl, stops, -⟩ := heeds
    have passes : e.isRecoverable = true := passed _ (List.mem_concat_self ..)
    rw [stops] at passes
    cases passes
  | broken =>
    obtain ⟨earlier, breach, rfl, -⟩ := heeds
    exact (passed _ (List.mem_concat_self ..)).elim

theorem Tracks.ended_stopped (tracks : Tracks f done results h) {e : Error}
    (member : .error (.refused e) ∈ results) (stops : e.isRecoverable = false)
    (ended : h.stage.hasEnded = true) : h.stage.worker = .ended (.stopped e) := by
  obtain ⟨outcome, place⟩ := Stage.exists_ended ended
  have heeds := tracks.heeds
  have fails : ¬Passes (.error (.refused e)) := fun passes => by
    rw [Passes, stops] at passes
    cases passes
  rw [place] at heeds ⊢
  cases outcome with
  | finished => exact absurd (heeds _ member) fails
  | stopped other =>
    obtain ⟨earlier, rfl, -, passed⟩ := heeds
    cases eq_last_of_stops passed member fails
    rfl
  | broken =>
    obtain ⟨earlier, breach, rfl, passed⟩ := heeds
    cases eq_last_of_stops passed member fails

theorem Tracks.settled (tracks : Tracks f done results h)
    (unbroken : ∀ breach, .error (.broken breach) ∉ results) (ended : h.stage.hasEnded = true) :
    h.stage.stats.received = h.stage.stats.forwarded + h.stage.stats.failed := by
  obtain ⟨outcome, place⟩ := Stage.exists_ended ended
  have heeds := tracks.heeds
  rw [tracks.received_eq, tracks.counted_eq]
  rw [place] at heeds ⊢
  cases outcome with
  | finished => rfl
  | stopped e => rfl
  | broken =>
    obtain ⟨earlier, breach, rfl, -⟩ := heeds
    exact absurd (List.mem_concat_self ..) (unbroken breach)

theorem Tracks.explains (tracks : Tracks f done results h) : Explains f done results h := by
  obtain ⟨g, filters, -⟩ := tracks.filters
  refine ⟨tracks.processed, ⟨g, filters⟩, tracks.emitted, fun silent => ?_, ?_, tracks.settled,
    fun passed ended w => ?_, fun passed ended hears => ?_⟩
  · obtain ⟨lost, received⟩ := tracks.unheard silent
    obtain ⟨rs, fewer, received_eq⟩ := List.prefix_filterMap_iff.1 received
    obtain ⟨part, less, filtered⟩ := filters.of_prefix fewer
    exact ⟨lost, part, rs, less, fewer, filtered, received_eq⟩
  · have counted := tracks.counted_eq
    have received := tracks.received_eq
    have pending : h.stage.worker.pending ≤ 1 := by
      unfold StageWorker.pending
      split <;> decide
    omega
  · have place := tracks.ended_finished passed ended
    have forwarded := tracks.forwarded_eq
    rw [Stage.outcome_drain_of_hasEnded ended, Stage.outcome, place]
    rw [place] at forwarded
    exact ⟨rfl, forwarded⟩
  · have place := tracks.ended_finished passed ended
    exact tracks.finished (by rw [place]; rfl) hears

/-- Whatever the sender, the worker and the receiver do, and in whatever order: the results come
in the order of the frames, the counters are right up to the frame in progress, nothing follows an
error that is not about a single frame, and joining the stage tells it, or else that everything
is done. -/
theorem protocol {capacity : Nat} {s : Stage κ} (spawned : Stage.spawn f capacity = .ok s)
    (leads : (⟨s, [], []⟩ : StageHistory κ).Leads h) :
    ∃ done results, Explains f done results h ∧
      (∀ e, .error (.refused e) ∈ results → e.isRecoverable = false →
        (∃ earlier, results = earlier ++ [.error (.refused e)] ∧ ∀ r ∈ earlier, Passes r) ∧
        (∀ later, h.Leads later → Explains f done results later) ∧
        ∀ w, (h.stage.drain w).1.outcome = .error e) ∧
      ∀ w, (h.stage.drain w).1.hasEnded = true ∧ (h.stage.drain w).1.closed = true ∧
        (h.stage.drain w).1.heard = h.stage.heard ∧
        ∃ more, h.Leads ⟨(h.stage.drain w).1, h.sent, h.received ++ more⟩ := by
  obtain ⟨done, results, tracks, -⟩ := (Tracks.spawn spawned).leads leads
  refine ⟨done, results, tracks.explains, fun e member stops => ?_, fun w => ?_⟩
  · have fails : ¬Passes (.error (.refused e)) := fun passes => by
      rw [Passes, stops] at passes
      cases passes
    have still : ∀ later, h.Leads later → Tracks f done results later := by
      intro later leads
      obtain ⟨done', results', after, kept⟩ := tracks.leads leads
      obtain ⟨rfl, rfl⟩ := kept ⟨_, member, fails⟩
      exact after
    refine ⟨tracks.eq_concat_of_stops member fails, fun later leads => (still later leads).explains,
      fun w => ?_⟩
    obtain ⟨more, leads⟩ := leads_drain h w
    have place : (h.stage.drain w).1.worker = .ended (.stopped e) :=
      (still _ leads).ended_stopped member stops (Stage.hasEnded_drain h.stage w)
    simp only [Stage.outcome, place]
  · obtain ⟨closed, hears⟩ := Stage.open_drain h.stage w
    exact ⟨Stage.hasEnded_drain h.stage w, closed, hears, leads_drain h w⟩

/-- With room or without: what the filter makes of a frame can be passed on to the receiver. -/
theorem leads_frame {filter g : ScaleFilter κ} {frame out : Frame} {w v : World} {capacity : Nat}
    {stats : StageStats} {sent received : List Frame}
    (scaled : filter.filterFrame frame w = (.ok out, g, v)) :
    (⟨⟨capacity, [], false, .waiting filter, [], true, stats⟩, sent, received⟩ :
        StageHistory κ).Leads
      ⟨⟨capacity, [], false, .waiting g, [], true,
        ⟨stats.received + 1, stats.forwarded + 1, stats.failed⟩⟩,
        sent ++ [frame], received ++ [out]⟩ := by
  have hasRoom : Stage.hasRoom ⟨capacity, [], false, .waiting filter, [], true, stats⟩ = true := by
    cases capacity <;> rfl
  have accepted : Stage.send? ⟨capacity, [], false, .waiting filter, [], true, stats⟩ frame w
      = some (.ok (), ⟨capacity, [frame], false, .waiting filter, [], true, stats⟩, w) := by
    rw [Stage.send?, if_neg (by nofun), if_pos hasRoom]
    rfl
  have worked : Stage.work? ⟨capacity, [], false, .counted filter frame, [], true,
        { stats with received := stats.received + 1 }⟩ w
      = some (⟨capacity, [], false, .scaled g (.ok out), [], true,
        { stats with received := stats.received + 1 }⟩, v) := by
    simp only [Stage.work?, scaled]
  exact .head (.send accepted) <| .head (.work (w := w) rfl) <| .head (.work (w := w) rfl) <|
    .head (.work worked) <| .head (.work (w := v) rfl) <| .single (.receive rfl)

open ScaleFilter in
theorem protocol_dxva2Frame :
    ∃ (f : ScaleFilter Converter) (s : Stage Converter) (out : Frame) (h : StageHistory Converter),
      Stage.spawn f 1 = .ok s ∧ (⟨s, [], []⟩ : StageHistory Converter).Leads h ∧
        h.sent = [dxva2Frame] ∧ h.received = [out] ∧
        ∃ done results, Explains f done results h ∧
          (∀ e, .error (.refused e) ∈ results → e.isRecoverable = false →
            ∀ w, (h.stage.drain w).1.outcome = .error e) ∧
          ∀ w, (h.stage.drain w).1.hasEnded = true := by
  obtain ⟨output, f, v, out, g, u, accepted, scaled⟩ := dxva2Frame_scaled (.inr rfl)
  obtain ⟨-, -, setup, c, serves, -⟩ := configOutput_ok accepted
  have spawned : Stage.spawn f 1 = .ok ⟨1, [], false, .waiting f, [], true, ⟨0, 0, 0⟩⟩ := by
    simp only [Stage.spawn, serves.configured_eq, Option.isSome_some, if_true]
  have leads := @leads_frame _ _ _ _ _ _ _ _ 1 ⟨0, 0, 0⟩ [] [] scaled
  obtain ⟨done, results, explains, stops, joins⟩ := protocol spawned leads
  exact ⟨f, _, out, _, spawned, leads, rfl, rfl, done, results, explains,
    fun e member fatal => (stops e member fatal).2.2, fun w => (joins w).1⟩

end StageHistory

end VideoScaler
