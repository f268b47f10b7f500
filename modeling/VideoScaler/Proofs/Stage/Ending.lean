import VideoScaler.Proofs.Stage.Protocol

/-! A stage that is closed comes to its end.

Every step of the worker brings it closer to a moment at which it has to wait. Once the input
is closed and all results are taken, there is nothing left to wait for.
-/

set_option autoImplicit false

namespace VideoScaler

variable {κ : Type}

namespace Stage

variable {s t : Stage κ} {w v : World}

theorem stepsLeft_count (s : Stage κ) (filter : ScaleFilter κ) (result : Except Error Frame) :
    (s.count filter result).stepsLeft ≤ 5 * s.input.length + 3 := by
  cases result with
  | ok out => exact Nat.le_refl _
  | error e =>
    simp only [count, stepsLeft]
    cases e.isRecoverable
    · exact Nat.add_le_add_left (by decide : 1 ≤ 3) _
    · exact Nat.add_le_add_left (by decide : 2 ≤ 3) _

section
variable [Component κ]

theorem stepsLeft_work (worked : s.work? w = some (t, v)) : t.stepsLeft < s.stepsLeft := by
  cases works_of_work? worked with
  | take place queue =>
    simp only [stepsLeft, place, queue, List.length_cons]
    omega
  | count place =>
    refine Nat.lt_of_le_of_lt (stepsLeft_count s _ _) ?_
    simp only [stepsLeft, place]
    omega
  | endWith place =>
    simp only [stepsLeft, place, endWith, List.length_nil]
    omega
  | leave place | countIn place | scale place | breakDown place | breakOff place | handOn place =>
    simp only [stepsLeft, place]
    omega

theorem work?_workFor (steps : Nat) (enough : s.stepsLeft ≤ steps) (w v : World) :
    (workFor steps s w).1.work? v = none := by
  induction steps generalizing s w with
  | zero =>
    rw [workFor]
    -- Without steps left there is no step to take.
    cases worked : s.work? v with
    | none => rfl
    | some next => exact absurd (stepsLeft_work worked) (by omega)
  | succ steps ih =>
    rw [workFor]
    cases worked : s.work? w with
    | none => exact (waits_of_work? worked).work?_eq_none v
    | some next =>
      have fewer := stepsLeft_work worked
      exact ih (by omega) next.2

theorem work?_settle (s : Stage κ) (w v : World) : (s.settle w).1.work? v = none :=
  work?_workFor s.stepsLeft (Nat.le_refl _) w v

end

/-- What is left to be done until everything is received that there will be. -/
def roundsLeft (s : Stage κ) : Nat :=
  s.stepsLeft + s.output.length

theorem roundsLeft_receive {frame : Frame} (received : s.receive? = some (frame, t)) :
    t.roundsLeft < s.roundsLeft := by
  cases receives_of_receive? received with
  | queued queue =>
    simp only [roundsLeft, stepsLeft, queue, List.length_cons]
    omega
  | handed queue place =>
    simp only [roundsLeft, stepsLeft, place]
    omega

theorem open_receive {frame : Frame} (received : s.receive? = some (frame, t)) :
    t.closed = s.closed ∧ t.heard = s.heard := by
  cases receives_of_receive? received <;> exact ⟨rfl, rfl⟩

theorem exists_ended (ended : s.hasEnded = true) : ∃ outcome, s.worker = .ended outcome := by
  unfold hasEnded at ended
  split at ended
  case h_1 outcome place => exact ⟨outcome, place⟩
  case h_2 => cases ended

theorem hasEnded_of_waits (closed : s.closed = true) (nothing : s.receive? = none)
    (waits : s.Waits) : s.hasEnded = true := by
  cases waits with
  | forFrame _ _ unclosed =>
    rw [closed] at unclosed
    cases unclosed
  | forRoom place hears =>
    rw [(receive?_eq_none nothing).2 _ _ place] at hears
    cases hears
  | forGood place => simp only [hasEnded, place]

variable [Component κ]

theorem open_work (worked : s.work? w = some (t, v)) :
    t.closed = s.closed ∧ t.heard = s.heard := by
  cases works_of_work? worked with
  | @count filter result => cases result <;> exact ⟨rfl, rfl⟩
  | _ => exact ⟨rfl, rfl⟩

theorem roundsLeft_work (nothing : s.receive? = none) (worked : s.work? w = some (t, v)) :
    t.roundsLeft < s.roundsLeft := by
  have fewer := stepsLeft_work worked
  have same : t.output = s.output := by
    cases works_of_work? worked with
    | @count filter result => cases result <;> rfl
    | handOn place hears =>
      rw [(receive?_eq_none nothing).2 _ _ place] at hears
      cases hears
    | _ => rfl
  unfold roundsLeft
  rw [same]
  omega

theorem hasEnded_drainFor (rounds : Nat) (enough : s.roundsLeft ≤ rounds)
    (closed : s.closed = true) (w : World) : (drainFor rounds s w).1.hasEnded = true := by
  induction rounds generalizing s w with
  | zero =>
    rw [drainFor]
    cases received : s.receive? with
    | some next => exact absurd (roundsLeft_receive received) (by omega)
    | none =>
      cases worked : s.work? w with
      | some next => exact absurd (roundsLeft_work received worked) (by omega)
      | none => exact hasEnded_of_waits closed received (waits_of_work? worked)
  | succ rounds ih =>
    rw [drainFor]
    cases received : s.receive? with
    | some next =>
      have fewer := roundsLeft_receive received
      exact ih (by omega) ((open_receive received).1.trans closed) _
    | none =>
      cases worked : s.work? w with
      | some next =>
        have fewer := roundsLeft_work received worked
        exact ih (by omega) ((open_work worked).1.trans closed) _
      | none => exact hasEnded_of_waits closed received (waits_of_work? worked)

/-- Joining a stage brings it to its end. -/
theorem hasEnded_drain (s : Stage κ) (w : World) : (s.drain w).1.hasEnded = true :=
  @hasEnded_drainFor κ s.finish _ (s.stepsLeft + s.output.length) (Nat.le_refl _) rfl w

theorem open_drainFor (rounds : Nat) (s : Stage κ) (w : World) :
    (drainFor rounds s w).1.closed = s.closed ∧ (drainFor rounds s w).1.heard = s.heard := by
  induction rounds generalizing s w with
  | zero => exact ⟨rfl, rfl⟩
  | succ rounds ih =>
    rw [drainFor]
    cases received : s.receive? with
    | some next =>
      have same := open_receive received
      have kept := ih next.2 (w.dropFrame next.1)
      exact ⟨kept.1.trans same.1, kept.2.trans same.2⟩
    | none =>
      cases worked : s.work? w with
      | some next =>
        have same := open_work worked
        have kept := ih next.1 next.2
        exact ⟨kept.1.trans same.1, kept.2.trans same.2⟩
      | none => exact ⟨rfl, rfl⟩

theorem open_drain (s : Stage κ) (w : World) :
    (s.drain w).1.closed = true ∧ (s.drain w).1.heard = s.heard :=
  open_drainFor (s.stepsLeft + s.output.length) s.finish w

theorem drainFor_of_hasEnded (rounds : Nat) (ended : s.hasEnded = true) (w : World) :
    ∃ output, (drainFor rounds s w).1 = { s with output } := by
  obtain ⟨outcome, place⟩ := exists_ended ended
  induction rounds generalizing s w with
  | zero => exact ⟨s.output, rfl⟩
  | succ rounds ih =>
    rw [drainFor]
    cases received : s.receive? with
    | some next =>
      obtain ⟨frame, t⟩ := next
      cases receives_of_receive? received with
      | @queued rest queue => exact @ih { s with output := rest } ended _ place
      | handed _ other =>
        rw [place] at other
        cases other
    | none =>
      rw [(Waits.forGood place).work?_eq_none w]
      exact ⟨s.output, rfl⟩

theorem outcome_drain_of_hasEnded (ended : s.hasEnded = true) (w : World) :
    (s.drain w).1.outcome = s.outcome := by
  obtain ⟨output, same⟩ :=
    @drainFor_of_hasEnded κ s.finish _ (s.stepsLeft + s.output.length) ended w
  unfold drain
  rw [same]
  rfl

end Stage

namespace StageHistory

variable [Component κ] {h : StageHistory κ}

theorem leads_drainFor (rounds : Nat) (s : Stage κ) (sent received : List Frame) (w : World) :
    ∃ more, (⟨s, sent, received⟩ : StageHistory κ).Leads
      ⟨(Stage.drainFor rounds s w).1, sent, received ++ more⟩ := by
  induction rounds generalizing s received w with
  | zero => exact ⟨[], by rw [List.append_nil]; exact .refl⟩
  | succ rounds ih =>
    rw [Stage.drainFor]
    cases taken : s.receive? with
    | some next =>
      obtain ⟨more, leads⟩ := ih next.2 (received ++ [next.1]) (w.dropFrame next.1)
      refine ⟨[next.1] ++ more, ?_⟩
      rw [← List.append_assoc]
      exact .head (Step.receive taken) leads
    | none =>
      cases worked : s.work? w with
      | some next =>
        obtain ⟨more, leads⟩ := ih next.1 received next.2
        exact ⟨more, .head (Step.work worked) leads⟩
      | none => exact ⟨[], by rw [List.append_nil]; exact .refl⟩

theorem leads_drain (h : StageHistory κ) (w : World) :
    ∃ more, h.Leads ⟨(h.stage.drain w).1, h.sent, h.received ++ more⟩ := by
  obtain ⟨more, leads⟩ := leads_drainFor (h.stage.stepsLeft + h.stage.output.length)
    h.stage.finish h.sent h.received w
  exact ⟨more, .head Step.finish leads⟩

end StageHistory

end VideoScaler
