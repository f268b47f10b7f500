import VideoScaler.Frame.World

/-! The surfaces that buffers hold while other buffers are released and dropped. -/

set_option autoImplicit false

namespace VideoScaler.World

variable {w : World} {f : Frame} {b other : FrameBuffer} {s : Surface} {before : BufferState}

theorem get?_releaseBuffer_of_ne (ne : other ≠ b) (w : World) :
    (w.releaseBuffer other).buffers.get? b = w.buffers.get? b := by
  unfold releaseBuffer
  split
  · exact Arena.get?_modify_of_ne ne ..
  · rfl

theorem get?_dropBuffer_of_ne (ne : other ≠ b) (w : World) :
    (w.dropBuffer other).buffers.get? b = w.buffers.get? b := by
  unfold dropBuffer
  simp only [Arena.get?_modify_of_ne ne]
  split
  · split
    · exact get?_releaseBuffer_of_ne ne w
    · rfl
  · rfl

theorem get?_foldl_dropBuffer_of_not_mem {buffers : List FrameBuffer} (missing : b ∉ buffers)
    (w : World) : (buffers.foldl dropBuffer w).buffers.get? b = w.buffers.get? b := by
  -- One buffer after the other is dropped, and the world changes with each.
  induction buffers generalizing w with
  | nil => rfl
  | cons other buffers ih =>
    obtain ⟨ne, missing⟩ := not_or.1 (mt List.mem_cons.2 missing)
    rw [List.foldl_cons, ih missing, get?_dropBuffer_of_ne (Ne.symm ne)]

theorem held?_releaseBuffer (w : World) (b : FrameBuffer) : (w.releaseBuffer b).held? b = none := by
  unfold releaseBuffer
  split
  case h_1 => simp [held?]
  case h_2 none => exact none

theorem held?_dropBuffer_of_ne (ne : other ≠ b) (w : World) :
    (w.dropBuffer other).held? b = w.held? b := by
  rw [held?, held?, get?_dropBuffer_of_ne ne]

theorem held?_of_dropBuffer (held : (w.dropBuffer other).held? b = some s) :
    w.held? b = some s := by
  by_cases same : other = b
  · subst same
    -- Either the buffer has given up its surface, or it is the same but for the copies.
    unfold dropBuffer at held
    split at held
    case h_1 state found =>
      split at held
      · have gone := held?_releaseBuffer w other
        simp only [held?, Arena.get?_modify_self, Option.bind_map] at held gone
        simp only [Function.comp_def] at held
        rw [gone] at held
        cases held
      · simpa [held?, Arena.get?_modify_self, Option.bind_map, Function.comp_def] using held
    case h_2 => simpa [held?, Arena.get?_modify_self, Option.bind_map, Function.comp_def] using held
  · rwa [held?_dropBuffer_of_ne same] at held

theorem held?_of_dropFrame (held : (w.dropFrame f).held? b = some s) : w.held? b = some s := by
  unfold dropFrame at held
  generalize f.buffers = buffers at held
  induction buffers generalizing w with
  | nil => exact held
  | cons other buffers ih => exact held?_of_dropBuffer (ih held)

theorem held?_dropFrame_of_not_mem (missing : b ∉ f.buffers) (w : World) :
    (w.dropFrame f).held? b = w.held? b := by
  rw [dropFrame, held?, held?, get?_foldl_dropBuffer_of_not_mem missing]

theorem held?_addBuffer_dropFrame (known : ∀ b ∈ f.buffers, (w.buffers.get? b).isSome = true)
    (s : Surface) (notifies : Bool) :
    ((w.addBuffer s notifies).2.dropFrame f).held? (w.addBuffer s notifies).1 = some s := by
  -- A reference that means something already is not given out again.
  have fresh : (w.addBuffer s notifies).1 ∉ f.buffers := by
    intro member
    obtain ⟨state, found⟩ := Option.isSome_iff_exists.1 (known _ member)
    exact Arena.add_ne_of_some found ⟨some s, 1, notifies, 0⟩ rfl
  rw [held?_dropFrame_of_not_mem fresh]
  simp only [held?, addBuffer, Arena.get?_add_self, Option.bind_some]

theorem get?_dropBuffer_more (found : w.buffers.get? b = some before) (more : before.holders ≠ 1) :
    (w.dropBuffer b).buffers.get? b = some { before with holders := before.holders - 1 } := by
  unfold dropBuffer
  simp only [found, if_neg more, Arena.get?_modify_self, Option.map_some]

/-- With its last copy a buffer gives up what it holds, and tells its maker. -/
theorem get?_dropBuffer_last (found : w.buffers.get? b = some before) (last : before.holders = 1) :
    (w.dropBuffer b).buffers.get? b = some
      ⟨none, 0, before.notifies, before.notified +
        if before.surface.isSome = true ∧ before.notifies = true then 1 else 0⟩ := by
  obtain ⟨surface, holders, notifies, notified⟩ := before
  cases last
  cases surface with
  | none => simp [dropBuffer, releaseBuffer, held?, found]
  | some s => simp [dropBuffer, releaseBuffer, held?, found]

/-- Does a frame have all copies of a buffer that tells its maker, and has told it once if it has
given up its surface already? -/
structure Sole (w : World) (f : Frame) (b : FrameBuffer) (before : BufferState) : Prop where
  member : b ∈ f.buffers
  found : w.buffers.get? b = some before
  holders_eq : before.holders = f.buffers.count b
  notifies_eq : before.notifies = true
  notified_eq : before.notified = if before.surface.isSome = true then 0 else 1

theorem Sole.dropFrame (sole : w.Sole f b before) :
    (w.dropFrame f).buffers.get? b = some ⟨none, 0, true, 1⟩ := by
  obtain ⟨member, found, holders_eq, notifies_eq, notified_eq⟩ := sole
  unfold World.dropFrame
  -- What a copy fewer leaves is again all copies, in the rest of the frame.
  generalize f.buffers = buffers at member holders_eq
  induction buffers generalizing w before with
  | nil => cases member
  | cons other buffers ih =>
    rw [List.foldl_cons]
    by_cases same : other = b
    · subst same
      rw [List.count_cons_self] at holders_eq
      by_cases last : buffers.count other = 0
      · have missing : other ∉ buffers := List.count_eq_zero.1 last
        rw [get?_foldl_dropBuffer_of_not_mem missing,
          get?_dropBuffer_last found (by rw [holders_eq, last]), notifies_eq, notified_eq]
        cases before.surface <;> rfl
      · have more : before.holders ≠ 1 := by omega
        exact ih (get?_dropBuffer_more found more) notifies_eq notified_eq
          (List.count_pos_iff.1 (Nat.pos_of_ne_zero last)) (by rw [holders_eq]; rfl)
    · rw [List.count_cons_of_ne same] at holders_eq
      exact ih (by rw [get?_dropBuffer_of_ne same, found]) notifies_eq notified_eq
        ((List.mem_cons.1 member).resolve_left (Ne.symm same)) holders_eq

end VideoScaler.World
