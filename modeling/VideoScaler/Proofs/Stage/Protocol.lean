import Mathlib.Logic.Relation
import VideoScaler.Proofs.Stage.Moves

/-! A sender, a worker and a receiver at a stage, each taking its steps whenever it can.

Whatever the order of the steps, frames are neither lost nor doubled nor brought out of order,
and the counters tell what has become of them.
-/

set_option autoImplicit false

namespace VideoScaler

variable {κ : Type} [Component κ]

/-- Frames are given to a filter one after the other, each in some state of the world. -/
inductive Filters (f : ScaleFilter κ) :
    List Frame → List (Attempt Error Frame) → ScaleFilter κ → Prop where
  | nil : Filters f [] [] f
  | snoc {frames : List Frame} {results : List (Attempt Error Frame)} {g : ScaleFilter κ}
    (before : Filters f frames results g) (frame : Frame) (w : World) :
    Filters f (frames ++ [frame]) (results ++ [(g.filterFrame frame w).1])
      (g.filterFrame frame w).2.1

def framesOf (results : List (Attempt Error Frame)) : List Frame :=
  results.filterMap Except.toOption

def Passes : Attempt Error Frame → Prop
  | .ok _ => True
  | .error (.refused e) => e.isRecoverable = true
  | .error (.broken _) => False

namespace StageWorker

def filter? : StageWorker κ → Option (ScaleFilter κ)
  | waiting f | taken f _ | counted f _ | scaled f _ | sending f _ => some f
  | leaving _ _ | ended _ => none

def busy : StageWorker κ → List Frame
  | taken _ frame | counted _ frame => [frame]
  | _ => []

def hand : StageWorker κ → List Frame
  | scaled _ (.ok out) | sending _ out => [out]
  | _ => []

def outcome? : StageWorker κ → Option StageEnd
  | leaving _ outcome | ended outcome => some outcome
  | _ => none

def tallied (results : List (Attempt Error Frame)) : StageWorker κ → List (Attempt Error Frame)
  | scaled _ _ | leaving _ .broken | ended .broken => results.dropLast
  | _ => results

/-- How many frames are counted as received whose results are not counted yet. -/
def pending : StageWorker κ → Nat
  | counted _ _ | scaled _ _ | leaving _ .broken | ended .broken => 1
  | _ => 0

/-- Is it for these results that the worker is where it is? It goes on as long as they let it, and
stops at the first one that does not. -/
def Heeds (results : List (Attempt Error Frame)) : StageWorker κ → Prop
  | scaled _ result => ∃ earlier, results = earlier ++ [Attempt.ofExcept result] ∧
      ∀ r ∈ earlier, Passes r
  | leaving _ (.stopped e) | ended (.stopped e) => ∃ earlier,
      results = earlier ++ [.error (.refused e)] ∧ e.isRecoverable = false ∧
        ∀ r ∈ earlier, Passes r
  | leaving _ .broken | ended .broken => ∃ earlier breach,
      results = earlier ++ [.error (.broken breach)] ∧ ∀ r ∈ earlier, Passes r
  | _ => ∀ r ∈ results, Passes r

end StageWorker

/-- A stage, with the frames that were sent to it and received from it so far, oldest first. -/
structure StageHistory (κ : Type) where
  stage : Stage κ
  sent : List Frame
  received : List Frame

namespace StageHistory

/-- One step of one of the parties. The world is as the others have left it. -/
inductive Step : StageHistory κ → StageHistory κ → Prop where
  | send {h : StageHistory κ} {frame : Frame} {w v : World} {s : Stage κ}
    (accepted : h.stage.send? frame w = some (.ok (), s, v)) :
    Step h ⟨s, h.sent ++ [frame], h.received⟩
  | sendRefused {h : StageHistory κ} {frame : Frame} {w v : World} {e : Error} {s : Stage κ}
    (refused : h.stage.send? frame w = some (.error e, s, v)) :
    Step h { h with stage := s }
  | finish {h : StageHistory κ} : Step h { h with stage := h.stage.finish }
  | receive {h : StageHistory κ} {frame : Frame} {s : Stage κ}
    (received : h.stage.receive? = some (frame, s)) :
    Step h ⟨s, h.sent, h.received ++ [frame]⟩
  | hangUp {h : StageHistory κ} (w : World) : Step h { h with stage := (h.stage.hangUp w).1 }
  | work {h : StageHistory κ} {w v : World} {s : Stage κ}
    (worked : h.stage.work? w = some (s, v)) : Step h { h with stage := s }

def Leads : StageHistory κ → StageHistory κ → Prop :=
  Relation.ReflTransGen Step

/-- Is this how a stage has come to where it is: by giving these frames to the filter, with these
results? -/
structure Tracks (f : ScaleFilter κ) (done : List Frame) (results : List (Attempt Error Frame))
    (h : StageHistory κ) : Prop where
  filters : ∃ g, Filters f done results g ∧ ∀ other, h.stage.worker.filter? = some other → other = g
  processed : done <+: h.sent
  queued : h.stage.worker.outcome? = none → h.sent = done ++ h.stage.worker.busy ++ h.stage.input
  emitted : h.stage.heard = true →
    h.received ++ h.stage.output ++ h.stage.worker.hand = framesOf results
  unheard : h.stage.heard = false → h.stage.output = [] ∧ h.received <+: framesOf results
  heeds : h.stage.worker.Heeds results
  forwarded_eq : h.stage.stats.forwarded = (framesOf (h.stage.worker.tallied results)).length
  counted_eq : h.stage.stats.forwarded + h.stage.stats.failed
    = (h.stage.worker.tallied results).length
  received_eq : h.stage.stats.received
    = (h.stage.worker.tallied results).length + h.stage.worker.pending
  finished : h.stage.worker.outcome? = some .finished → h.stage.heard = true →
    h.stage.closed = true ∧ done = h.sent

variable {f : ScaleFilter κ} {done : List Frame} {results : List (Attempt Error Frame)}
  {h : StageHistory κ}

theorem Tracks.spawn {capacity : Nat} {s : Stage κ} (spawned : Stage.spawn f capacity = .ok s) :
    Tracks f [] [] ⟨s, [], []⟩ := by
  unfold Stage.spawn at spawned
  split at spawned <;> cases spawned
  refine ⟨⟨f, .nil, fun _ same => (Option.some.inj same).symm⟩, List.prefix_rfl, fun _ => rfl,
    fun _ => rfl, fun unheard => ?_, fun r member => ?_, rfl, rfl, rfl, fun finished => ?_⟩
  · cases unheard
  · cases member
  · cases finished

/-! ### One step -/

theorem Tracks.send (tracks : Tracks f done results h) {frame : Frame} {w v : World} {s : Stage κ}
    (accepted : h.stage.send? frame w = some (.ok (), s, v)) :
    Tracks f done results ⟨s, h.sent ++ [frame], h.received⟩ := by
  obtain ⟨unclosed, rfl⟩ := Stage.send?_ok accepted
  refine ⟨tracks.filters, tracks.processed.trans (List.prefix_append ..), fun active => ?_,
    tracks.emitted, tracks.unheard, tracks.heeds, tracks.forwarded_eq, tracks.counted_eq,
    tracks.received_eq, fun finished heard => ?_⟩
  · simp only [tracks.queued active, List.append_assoc]
  · -- Nothing more is sent once the input is closed, and before that no worker finishes.
    have closed := (tracks.finished finished heard).1
    rw [unclosed] at closed
    cases closed

theorem Tracks.receive (tracks : Tracks f done results h) {frame : Frame} {s : Stage κ}
    (received : h.stage.receive? = some (frame, s)) :
    Tracks f done results ⟨s, h.sent, h.received ++ [frame]⟩ := by
  cases Stage.receives_of_receive? received with
  | queued queue =>
    refine ⟨tracks.filters, tracks.processed, tracks.queued, fun hears => ?_, fun unheard => ?_,
      tracks.heeds, tracks.forwarded_eq, tracks.counted_eq, tracks.received_eq, tracks.finished⟩
    · rw [← tracks.emitted hears, queue]
      simp only [List.append_assoc, List.singleton_append]
    · rw [(tracks.unheard unheard).1] at queue
      cases queue
  | handed queue place hears =>
    obtain ⟨filters, processed, queued, emitted, unheard, heeds, forwarded_eq, counted_eq,
      received_eq, -⟩ := tracks
    rw [place] at filters queued emitted heeds forwarded_eq counted_eq received_eq
    refine ⟨filters, processed, queued, fun _ => ?_, fun silent => ?_, heeds, forwarded_eq,
      counted_eq, received_eq, fun finished => ?_⟩
    · rw [← emitted hears, queue]
      simp only [StageWorker.hand, List.append_nil]
    · rw [hears] at silent
      cases silent
    · cases finished

theorem Tracks.hangUp (tracks : Tracks f done results h) (w : World) :
    Tracks f done results { h with stage := (h.stage.hangUp w).1 } := by
  refine ⟨tracks.filters, tracks.processed, tracks.queued, fun heard => ?_, fun _ => ⟨rfl, ?_⟩,
    tracks.heeds, tracks.forwarded_eq, tracks.counted_eq, tracks.received_eq, fun _ heard => ?_⟩
  · cases heard
  · cases heard : h.stage.heard with
    | true =>
      rw [← tracks.emitted heard, List.append_assoc]
      exact List.prefix_append ..
    | false => exact (tracks.unheard heard).2
  · cases heard

/-! ### The steps of the worker -/

section
variable {filter : ScaleFilter κ} {frame out : Frame} {input : List Frame} {outcome : StageEnd}

theorem framesOf_snoc (results : List (Attempt Error Frame)) (r : Attempt Error Frame) :
    framesOf (results ++ [r]) = framesOf results ++ r.toOption.toList := by
  unfold framesOf
  cases r <;> simp [Except.toOption]

theorem Tracks.take (tracks : Tracks f done results h) (place : h.stage.worker = .waiting filter)
    (queue : h.stage.input = frame :: input) :
    Tracks f done results
      { h with stage := { h.stage with input, worker := .taken filter frame } } := by
  obtain ⟨⟨g, filters, same⟩, processed, queued, emitted, unheard, heeds, forwarded_eq, counted_eq,
    received_eq, finished⟩ := tracks
  rw [place] at same queued emitted heeds forwarded_eq counted_eq received_eq
  refine ⟨⟨g, filters, same⟩, processed, fun _ => ?_, emitted, unheard, heeds, forwarded_eq,
    counted_eq, received_eq, fun finished => ?_⟩
  · rw [queued rfl, queue]
    simp only [StageWorker.busy, List.append_nil, List.append_assoc, List.singleton_append]
  · cases finished

theorem Tracks.leave (tracks : Tracks f done results h) (place : h.stage.worker = .waiting filter)
    (queue : h.stage.input = []) (closed : h.stage.closed = true) :
    Tracks f done results
      { h with stage := { h.stage with worker := .leaving filter .finished } } := by
  obtain ⟨⟨g, filters, same⟩, processed, queued, emitted, unheard, heeds, forwarded_eq, counted_eq,
    received_eq, -⟩ := tracks
  rw [place] at same queued emitted heeds forwarded_eq counted_eq received_eq
  refine ⟨⟨g, filters, fun _ same => ?_⟩, processed, fun active => ?_, emitted, unheard, heeds,
    forwarded_eq, counted_eq, received_eq, fun _ _ => ⟨closed, ?_⟩⟩
  · cases same
  · cases active
  · rw [queued rfl, queue]
    simp only [StageWorker.busy, List.append_nil]

theorem Tracks.countIn (tracks : Tracks f done results h)
    (place : h.stage.worker = .taken filter frame) :
    Tracks f done results { h with stage := { h.stage with
      worker := .counted filter frame
      stats := { h.stage.stats with received := h.stage.stats.received + 1 } } } := by
  obtain ⟨⟨g, filters, same⟩, processed, queued, emitted, unheard, heeds, forwarded_eq, counted_eq,
    received_eq, -⟩ := tracks
  rw [place] at same queued emitted heeds forwarded_eq counted_eq received_eq
  refine ⟨⟨g, filters, same⟩, processed, queued, emitted, unheard, heeds, forwarded_eq, counted_eq,
    congrArg (· + 1) received_eq, fun finished => ?_⟩
  cases finished

theorem Tracks.scale (tracks : Tracks f done results h)
    (place : h.stage.worker = .counted filter frame) {w : World} {result : Except Error Frame}
    (scaled : (filter.filterFrame frame w).1 = Attempt.ofExcept result) :
    Tracks f (done ++ [frame]) (results ++ [Attempt.ofExcept result]) { h with
      stage := { h.stage with worker := .scaled (filter.filterFrame frame w).2.1 result } } := by
  obtain ⟨⟨g, filters, same⟩, processed, queued, emitted, unheard, heeds, forwarded_eq, counted_eq,
    received_eq, -⟩ := tracks
  rw [place] at same queued emitted heeds forwarded_eq counted_eq received_eq
  obtain rfl := same filter rfl
  have sent_eq : h.sent = done ++ [frame] ++ h.stage.input := queued rfl
  have next := Filters.snoc filters frame w
  rw [scaled] at next
  refine ⟨⟨_, next, fun _ same => (Option.some.inj same).symm⟩, ?_, fun _ => ?_, fun hears => ?_,
    fun silent => ⟨(unheard silent).1, ?_⟩, ⟨results, rfl, heeds⟩, ?_, ?_, ?_, fun finished => ?_⟩
  · rw [sent_eq]
    exact List.prefix_append ..
  · simpa only [StageWorker.busy, List.append_nil] using sent_eq
  · rw [framesOf_snoc, ← emitted hears]
    cases result <;> simp [StageWorker.hand, Attempt.ofExcept, Except.toOption]
  · rw [framesOf_snoc]
    exact (unheard silent).2.trans (List.prefix_append ..)
  · simpa only [StageWorker.tallied, List.dropLast_concat] using forwarded_eq
  · simpa only [StageWorker.tallied, List.dropLast_concat] using counted_eq
  · simpa only [StageWorker.tallied, StageWorker.pending, List.dropLast_concat] using received_eq
  · cases finished

theorem Tracks.count (tracks : Tracks f done results h) {result : Except Error Frame}
    (place : h.stage.worker = .scaled filter result) :
    Tracks f done results { h with stage := h.stage.count filter result } := by
  obtain ⟨⟨g, filters, same⟩, processed, queued, emitted, unheard, heeds, forwarded_eq, counted_eq,
    received_eq, -⟩ := tracks
  rw [place] at same queued emitted heeds forwarded_eq counted_eq received_eq
  obtain ⟨earlier, rfl, passed⟩ := heeds
  simp only [StageWorker.tallied, List.dropLast_concat, StageWorker.pending]
    at forwarded_eq counted_eq received_eq
  cases result with
  | ok out =>
    refine ⟨⟨g, filters, same⟩, processed, queued, emitted, unheard, ?_, ?_, ?_, ?_,
      fun finished => ?_⟩
    · -- A result that is a frame is one more that is no hindrance.
      exact List.forall_mem_append.2 ⟨passed, List.forall_mem_singleton.2 trivial⟩
    · simp only [Stage.count, StageWorker.tallied, framesOf_snoc, List.length_append, forwarded_eq]
      rfl
    · simp only [Stage.count, StageWorker.tallied, List.length_append, List.length_singleton]
      omega
    · simp only [Stage.count, StageWorker.tallied, StageWorker.pending, List.length_append,
        List.length_singleton, received_eq]
    · cases finished
  | error e =>
    have forwarded : h.stage.stats.forwarded
        = (framesOf (earlier ++ [Attempt.ofExcept (.error e)])).length := by
      rw [framesOf_snoc, forwarded_eq, List.length_append]
      rfl
    cases goesOn : e.isRecoverable with
    | true =>
      simp only [Stage.count, goesOn, if_true]
      refine ⟨⟨g, filters, same⟩, processed, queued, emitted, unheard, ?_, forwarded, ?_, ?_,
        fun finished => ?_⟩
      · exact List.forall_mem_append.2 ⟨passed, List.forall_mem_singleton.2 goesOn⟩
      · simp only [StageWorker.tallied, List.length_append, List.length_singleton]
        omega
      · simp only [StageWorker.tallied, StageWorker.pending, List.length_append,
          List.length_singleton, received_eq]
      · cases finished
    | false =>
      simp only [Stage.count, goesOn, Bool.false_eq_true, if_false]
      refine ⟨⟨g, filters, fun _ same => ?_⟩, processed, fun active => ?_, emitted, unheard,
        ⟨earlier, rfl, goesOn, passed⟩, forwarded, ?_, ?_, fun finished => ?_⟩
      · cases same
      · cases active
      · simp only [StageWorker.tallied, List.length_append, List.length_singleton]
        omega
      · simp only [StageWorker.tallied, StageWorker.pending, List.length_append,
          List.length_singleton, received_eq]
      · cases finished

theorem Tracks.handOn (tracks : Tracks f done results h)
    (place : h.stage.worker = .sending filter out) (hears : h.stage.heard = true) :
    Tracks f done results { h with stage := { h.stage with
      worker := .waiting filter, output := h.stage.output ++ [out] } } := by
  obtain ⟨⟨g, filters, same⟩, processed, queued, emitted, unheard, heeds, forwarded_eq, counted_eq,
    received_eq, -⟩ := tracks
  rw [place] at same queued emitted heeds forwarded_eq counted_eq received_eq
  refine ⟨⟨g, filters, same⟩, processed, queued, fun _ => ?_, fun silent => ?_, heeds, forwarded_eq,
    counted_eq, received_eq, fun finished => ?_⟩
  · rw [← emitted hears]
    simp only [StageWorker.hand, List.append_nil, List.append_assoc]
  · rw [hears] at silent
    cases silent
  · cases finished

theorem Tracks.breakOff (tracks : Tracks f done results h)
    (place : h.stage.worker = .sending filter out) (silent : h.stage.heard = false) :
    Tracks f done results
      { h with stage := { h.stage with worker := .leaving filter .finished } } := by
  obtain ⟨⟨g, filters, same⟩, processed, queued, emitted, unheard, heeds, forwarded_eq, counted_eq,
    received_eq, -⟩ := tracks
  rw [place] at same queued emitted heeds forwarded_eq counted_eq received_eq
  refine ⟨⟨g, filters, fun _ same => ?_⟩, processed, fun active => ?_, fun hears => ?_, unheard,
    heeds, forwarded_eq, counted_eq, received_eq, fun _ hears => ?_⟩
  · cases same
  · cases active
  · rw [silent] at hears
    cases hears
  · rw [silent] at hears
    cases hears

theorem Tracks.breakDown (tracks : Tracks f done results h)
    (place : h.stage.worker = .counted filter frame) {w : World} {breach : Breach}
    (broke : (filter.filterFrame frame w).1 = .error (.broken breach)) :
    Tracks f (done ++ [frame]) (results ++ [.error (.broken breach)]) { h with
      stage := { h.stage with worker := .leaving (filter.filterFrame frame w).2.1 .broken } } := by
  obtain ⟨⟨g, filters, same⟩, processed, queued, emitted, unheard, heeds, forwarded_eq, counted_eq,
    received_eq, -⟩ := tracks
  rw [place] at same queued emitted heeds forwarded_eq counted_eq received_eq
  obtain rfl := same filter rfl
  have sent_eq : h.sent = done ++ [frame] ++ h.stage.input := queued rfl
  have next := Filters.snoc filters frame w
  rw [broke] at next
  have framesOf_eq : framesOf (results ++ [.error (.broken breach)]) = framesOf results := by
    rw [framesOf_snoc]
    exact List.append_nil _
  refine ⟨⟨_, next, fun _ same => ?_⟩, ?_, fun active => ?_, ?_, ?_, ⟨results, breach, rfl, heeds⟩,
    ?_, ?_, ?_, fun finished => ?_⟩
  · cases same
  · rw [sent_eq]
    exact List.prefix_append ..
  · cases active
  · rw [framesOf_eq]
    exact emitted
  · rw [framesOf_eq]
    exact unheard
  · simpa only [StageWorker.tallied, List.dropLast_concat] using forwarded_eq
  · simpa only [StageWorker.tallied, List.dropLast_concat] using counted_eq
  · simpa only [StageWorker.tallied, StageWorker.pending, List.dropLast_concat] using received_eq
  · cases finished

theorem Tracks.endWith (tracks : Tracks f done results h)
    (place : h.stage.worker = .leaving filter outcome) (w : World) :
    Tracks f done results { h with stage := (h.stage.endWith filter outcome w).1 } := by
  obtain ⟨⟨g, filters, -⟩, processed, -, emitted, unheard, heeds, forwarded_eq, counted_eq,
    received_eq, finished⟩ := tracks
  rw [place] at emitted heeds forwarded_eq counted_eq received_eq finished
  refine ⟨⟨g, filters, fun _ same => ?_⟩, processed, fun active => ?_, emitted, unheard, ?_, ?_, ?_,
    ?_, finished⟩
  · cases same
  · cases active
  · cases outcome <;> exact heeds
  · cases outcome <;> exact forwarded_eq
  · cases outcome <;> exact counted_eq
  · cases outcome <;> exact received_eq

theorem Tracks.work (tracks : Tracks f done results h) {w v : World} {s : Stage κ}
    (worked : h.stage.work? w = some (s, v)) :
    Tracks f done results { h with stage := s } ∨
      (∃ filter frame, h.stage.worker = .counted filter frame) ∧
        ∃ done' results', Tracks f done' results' { h with stage := s } := by
  cases Stage.works_of_work? worked with
  | take place queue => exact .inl (tracks.take place queue)
  | leave place queue closed => exact .inl (tracks.leave place queue closed)
  | countIn place => exact .inl (tracks.countIn place)
  | scale place scaled => exact .inr ⟨⟨_, _, place⟩, _, _, tracks.scale place scaled⟩
  | breakDown place broke => exact .inr ⟨⟨_, _, place⟩, _, _, tracks.breakDown place broke⟩
  | count place => exact .inl (tracks.count place)
  | breakOff place silent => exact .inl (tracks.breakOff place silent)
  | handOn place hears => exact .inl (tracks.handOn place hears)
  | endWith place => exact .inl (tracks.endWith place w)

end

theorem Tracks.not_counted_of_stops (tracks : Tracks f done results h)
    {r : Attempt Error Frame} (member : r ∈ results) (stops : ¬Passes r) {filter : ScaleFilter κ}
    {frame : Frame} : h.stage.worker ≠ .counted filter frame := by
  intro place
  have heeds := tracks.heeds
  rw [place] at heeds
  exact stops (heeds r member)

/-- What every step preserves: the frames and results so far stay as they are, and none is added
to one that does not pass. -/
theorem Tracks.step (tracks : Tracks f done results h) {next : StageHistory κ}
    (step : Step h next) :
    ∃ done' results', Tracks f done' results' next ∧
      ((∃ r ∈ results, ¬Passes r) → done' = done ∧ results' = results) := by
  cases step with
  | send accepted => exact ⟨done, results, tracks.send accepted, fun _ => ⟨rfl, rfl⟩⟩
  | sendRefused refused =>
    rw [Stage.send?_error refused]
    exact ⟨done, results, tracks, fun _ => ⟨rfl, rfl⟩⟩
  | finish =>
    refine ⟨done, results, ⟨tracks.filters, tracks.processed, tracks.queued, tracks.emitted,
      tracks.unheard, tracks.heeds, tracks.forwarded_eq, tracks.counted_eq, tracks.received_eq,
      fun finished heard => ⟨rfl, (tracks.finished finished heard).2⟩⟩, fun _ => ⟨rfl, rfl⟩⟩
  | receive received => exact ⟨done, results, tracks.receive received, fun _ => ⟨rfl, rfl⟩⟩
  | hangUp w => exact ⟨done, results, tracks.hangUp w, fun _ => ⟨rfl, rfl⟩⟩
  | work worked =>
    obtain same | ⟨⟨filter, frame, place⟩, done', results', next⟩ := tracks.work worked
    · exact ⟨done, results, same, fun _ => ⟨rfl, rfl⟩⟩
    · refine ⟨done', results', next, fun ⟨r, member, stops⟩ => ?_⟩
      exact absurd place (tracks.not_counted_of_stops member stops)

/-! ### Any number of steps -/

theorem Tracks.leads (tracks : Tracks f done results h) {next : StageHistory κ}
    (leads : h.Leads next) :
    ∃ done' results', Tracks f done' results' next ∧
      ((∃ r ∈ results, ¬Passes r) → done' = done ∧ results' = results) := by
  induction leads with
  | refl => exact ⟨done, results, tracks, fun _ => ⟨rfl, rfl⟩⟩
  | tail _ step ih =>
    obtain ⟨done', results', before, kept⟩ := ih
    obtain ⟨done'', results'', after, keptAgain⟩ := before.step step
    refine ⟨done'', results'', after, fun stops => ?_⟩
    obtain ⟨rfl, rfl⟩ := kept stops
    exact keptAgain stops

end StageHistory

end VideoScaler
