import VideoScaler.Proofs.Account.Media
import VideoScaler.Proofs.Frame.Buffer

/-! Buffers as holders of surfaces, and the copies of buffers that frames are made of.

A buffer is one holder of its surface, whatever the number of its copies, until it is released
or the last copy goes.
-/

set_option autoImplicit false

namespace VideoScaler

namespace Arena

variable {α β : Type} {arena : Arena α} {r : Ref α} {a : α} {b : β} {f : α → Multiset β}

def total (f : α → Multiset β) (arena : Arena α) : Multiset β :=
  (arena.objects.toList : Multiset α).bind f

theorem total_add (f : α → Multiset β) (arena : Arena α) (a : α) :
    (arena.add a).2.total f = f a + arena.total f := by
  unfold total add
  rw [Array.toList_push, ← Multiset.coe_add, Multiset.add_bind, Multiset.coe_singleton,
    Multiset.singleton_bind, add_comm]

theorem bind_modify (f : α → Multiset β) (g : α → α) (objects : List α) (i : Nat)
    (found : objects[i]? = some a) :
    (objects.modify i g : Multiset α).bind f + f a = (objects : Multiset α).bind f + f (g a) := by
  induction objects generalizing i with
  | nil => cases found
  | cons object objects ih =>
    cases i with
    | zero =>
      cases found
      rw [List.modify_zero_cons, ← Multiset.cons_coe, ← Multiset.cons_coe, Multiset.cons_bind,
        Multiset.cons_bind, add_right_comm, add_comm (f (g a)), add_right_comm]
    | succ i =>
      rw [List.modify_succ_cons, ← Multiset.cons_coe, ← Multiset.cons_coe, Multiset.cons_bind,
        Multiset.cons_bind, add_assoc, add_assoc, ih i found]

theorem total_modify (found : arena.get? r = some a) (g : α → α) :
    (arena.modify r g).total f + f a = arena.total f + f (g a) := by
  unfold total modify
  rw [Array.toList_modify]
  exact bind_modify f g arena.objects.toList r.index (by simpa [get?] using found)

theorem mem_total : b ∈ arena.total f ↔ ∃ r a, arena.get? r = some a ∧ b ∈ f a := by
  unfold total
  rw [Multiset.mem_bind]
  constructor
  · rintro ⟨a, member, has⟩
    obtain ⟨i, found⟩ := List.mem_iff_getElem?.1 (Multiset.mem_coe.1 member)
    exact ⟨⟨i⟩, a, by simpa [get?] using found, has⟩
  · rintro ⟨r, a, found, has⟩
    have member : a ∈ arena.objects.toList :=
      List.mem_iff_getElem?.2 ⟨r.index, by simpa [get?] using found⟩
    exact ⟨a, Multiset.mem_coe.2 member, has⟩

end Arena

def BufferState.surfaces (state : BufferState) : Multiset (Ref SurfaceState) :=
  entries state.surface

namespace World

def buffered (w : World) : Multiset (Ref SurfaceState) :=
  w.buffers.total BufferState.surfaces

/-- Are these all the holders of surfaces apart from the buffers, and all the copies of buffers? -/
structure Accounts (w : World) (held : Multiset (Ref SurfaceState))
    (copies : Multiset FrameBuffer) : Prop where
  media : w.media.Accounts (held + w.buffered)
  holders_eq : ∀ b, ((w.buffers.get? b).map BufferState.holders).getD 0 = copies.count b
  /-- A buffer without copies has given up its surface. -/
  gone : ∀ b state, w.buffers.get? b = some state → state.holders = 0 → state.surface = none

variable {w v : World} {held other : Multiset (Ref SurfaceState)} {copies : Multiset FrameBuffer}
  {s : Surface} {b : FrameBuffer} {f : Frame} {m : Media}

theorem mem_buffered {r : Ref SurfaceState} :
    r ∈ w.buffered ↔ ∃ b s, w.held? b = some s ∧ s.ref = r := by
  unfold buffered
  rw [Arena.mem_total]
  constructor
  · rintro ⟨b, state, found, member⟩
    obtain ⟨s, holds, same⟩ := mem_entries.1 member
    exact ⟨b, s, Option.bind_eq_some_iff.2 ⟨state, found, holds⟩, same⟩
  · rintro ⟨b, s, holds, same⟩
    obtain ⟨state, found, holds⟩ := Option.bind_eq_some_iff.1 holds
    exact ⟨b, state, found, mem_entries.2 ⟨s, holds, same⟩⟩

theorem Accounts.empty : World.empty.Accounts 0 0 where
  media := Media.Accounts.empty
  holders_eq b := by simp [World.empty]
  gone b state found := by simp [World.empty] at found

theorem Accounts.of_media (accounts : w.Accounts held copies)
    (media : m.Accounts (other + w.buffered)) :
    ({ w with media := m } : World).Accounts other copies :=
  ⟨media, accounts.holders_eq, accounts.gone⟩

theorem Accounts.of_pools (accounts : w.Accounts held copies) (pools : Arena PoolState) :
    ({ w with pools } : World).Accounts held copies :=
  ⟨accounts.media, accounts.holders_eq, accounts.gone⟩

theorem Accounts.release (accounts : w.Accounts (s.ref ::ₘ held) copies) :
    ({ w with media := w.media.release s } : World).Accounts held copies := by
  have media := accounts.media
  rw [Multiset.cons_add] at media
  exact accounts.of_media media.release

theorem Accounts.with_surface (accounts : w.Accounts other copies)
    (media : m.Accounts (s.ref ::ₘ (held + w.buffered))) :
    ({ w with media := m } : World).Accounts (s.ref ::ₘ held) copies :=
  accounts.of_media (by rwa [Multiset.cons_add])

theorem Accounts.retain (accounts : w.Accounts held copies)
    (member : s.ref ∈ held + w.buffered) :
    ({ w with media := w.media.retain s } : World).Accounts (s.ref ::ₘ held) copies :=
  accounts.with_surface (accounts.media.retain member)

theorem Accounts.with_entry {entered : Option Surface} (accounts : w.Accounts other copies)
    (media : m.Accounts (entries entered + (held + w.buffered))) :
    ({ w with media := m } : World).Accounts (entries entered + held) copies :=
  accounts.of_media (by rwa [add_assoc])

theorem Accounts.get?_of_mem (accounts : w.Accounts held copies) (member : b ∈ copies) :
    ∃ state, w.buffers.get? b = some state ∧ state.holders = copies.count b := by
  have holders := accounts.holders_eq b
  cases found : w.buffers.get? b with
  | none =>
    rw [found] at holders
    exact absurd holders.symm (Multiset.count_ne_zero.2 member)
  | some state =>
    rw [found] at holders
    exact ⟨state, rfl, holders⟩

theorem Accounts.buffered_eq (accounts : w.Accounts held 0) : w.buffered = 0 := by
  refine Multiset.eq_zero_of_forall_notMem fun r member => ?_
  obtain ⟨b, s, holds, -⟩ := mem_buffered.1 member
  obtain ⟨state, found, surface⟩ := Option.bind_eq_some_iff.1 holds
  have holders := accounts.holders_eq b
  rw [found] at holders
  rw [accounts.gone b state found holders] at surface
  cases surface

/-- When nobody holds anything, all surfaces that were made are gone. -/
theorem Accounts.live_eq (accounts : w.Accounts 0 0) : w.media.live = 0 := by
  have created := accounts.media.created_eq
  rw [accounts.buffered_eq] at created
  rw [Media.live, created]
  exact Nat.sub_self _

theorem Accounts.addBuffer (accounts : w.Accounts (s.ref ::ₘ held) copies) (notifies : Bool) :
    (w.addBuffer s notifies).2.Accounts held ((w.addBuffer s notifies).1 ::ₘ copies) := by
  let state : BufferState := ⟨some s, 1, notifies, 0⟩
  show World.Accounts { w with buffers := (w.buffers.add state).2 } held
    ((w.buffers.add state).1 ::ₘ copies)
  have new : (w.buffers.add state).1 ∉ copies := by
    intro member
    obtain ⟨old, found, -⟩ := accounts.get?_of_mem member
    exact Arena.add_ne_of_some found state rfl
  refine ⟨?_, fun b => ?_, fun b other found none => ?_⟩
  · show w.media.Accounts (held + (w.buffers.add state).2.total BufferState.surfaces)
    rw [Arena.total_add, ← add_assoc, add_comm held]
    exact accounts.media
  · by_cases same : (w.buffers.add state).1 = b
    · subst same
      rw [Arena.get?_add_self, Multiset.count_cons_self, Multiset.count_eq_zero.2 new]
      rfl
    · rw [Arena.get?_add_of_ne same, Multiset.count_cons_of_ne (Ne.symm same)]
      exact accounts.holders_eq b
  · by_cases same : (w.buffers.add state).1 = b
    · subst same
      rw [Arena.get?_add_self] at found
      cases found
      cases none
    · rw [Arena.get?_add_of_ne same] at found
      exact accounts.gone b other found none

/-! What a change of one buffer does to the surfaces that buffers hold. -/

section
variable {state : BufferState} {g : BufferState → BufferState}

theorem buffered_keep (found : w.buffers.get? b = some state)
    (keeps : (g state).surface = state.surface) :
    (w.buffers.modify b g).total BufferState.surfaces = w.buffered := by
  have total := Arena.total_modify (f := BufferState.surfaces) found g
  have same : (g state).surfaces = state.surfaces := congrArg entries keeps
  rw [same] at total
  exact add_right_cancel total

theorem buffered_give (found : w.buffers.get? b = some state) (holds : state.surface = some s)
    (gives : (g state).surface = none) :
    s.ref ::ₘ (w.buffers.modify b g).total BufferState.surfaces = w.buffered := by
  have total := Arena.total_modify (f := BufferState.surfaces) found g
  have before : state.surfaces = {s.ref} := congrArg entries holds
  have after : (g state).surfaces = 0 := congrArg entries gives
  rwa [before, after, add_comm, Multiset.singleton_add, add_zero] at total

theorem Accounts.modifyBuffer (accounts : w.Accounts held copies)
    {entered : Multiset FrameBuffer} (found : w.buffers.get? b = some state)
    (media : m.Accounts (held + (w.buffers.modify b g).total BufferState.surfaces))
    (holders : (g state).holders = entered.count b)
    (others : ∀ c, c ≠ b → entered.count c = copies.count c)
    (gone : (g state).holders = 0 → (g state).surface = none) :
    ({ w with media := m, buffers := w.buffers.modify b g } : World).Accounts held entered where
  media := media
  holders_eq c := by
    by_cases same : b = c
    · subst same
      simp only [Arena.get?_modify_self, found, Option.map_some, Option.getD_some, holders]
    · rw [others c (Ne.symm same), ← accounts.holders_eq c]
      simp only [Arena.get?_modify_of_ne same]
  gone c other found' none := by
    by_cases same : b = c
    · subst same
      simp only [Arena.get?_modify_self, found, Option.map_some, Option.some.injEq] at found'
      subst found'
      exact gone none
    · simp only [Arena.get?_modify_of_ne same] at found'
      exact accounts.gone c other found' none

/-- Copies of one buffer come and go while it keeps what it holds. -/
theorem Accounts.recount (accounts : w.Accounts held copies) {entered : Multiset FrameBuffer}
    (found : w.buffers.get? b = some state) (keeps : (g state).surface = state.surface)
    (holders : (g state).holders = entered.count b)
    (others : ∀ c, c ≠ b → entered.count c = copies.count c)
    (gone : (g state).holders = 0 → state.surface = none) :
    ({ w with buffers := w.buffers.modify b g } : World).Accounts held entered := by
  refine accounts.modifyBuffer found ?_ holders others (fun none => keeps.trans (gone none))
  rw [buffered_keep found keeps]
  exact accounts.media

end

theorem Accounts.retainBuffer (accounts : w.Accounts held copies) (member : b ∈ copies) :
    (w.retainBuffer b).Accounts held (b ::ₘ copies) := by
  obtain ⟨state, found, holders⟩ := accounts.get?_of_mem member
  refine accounts.recount found rfl ?_ (fun c other => Multiset.count_cons_of_ne other copies)
    (fun none => absurd none (Nat.succ_ne_zero _))
  rw [Multiset.count_cons_self, ← holders]

theorem Accounts.releaseBuffer (accounts : w.Accounts held copies) (b : FrameBuffer) :
    (w.releaseBuffer b).Accounts held copies := by
  unfold World.releaseBuffer
  split
  case h_2 => exact accounts
  case h_1 s holds =>
    obtain ⟨state, found, surface⟩ := Option.bind_eq_some_iff.1 holds
    refine accounts.modifyBuffer found (Media.Accounts.release ?_) ?_ (fun _ _ => rfl)
      (fun _ => rfl)
    · rw [← Multiset.add_cons, buffered_give found surface]
      · exact accounts.media
      · rfl
    · have holders := accounts.holders_eq b
      rwa [found] at holders

theorem Accounts.dropBuffer (accounts : w.Accounts held (b ::ₘ copies)) :
    (w.dropBuffer b).Accounts held copies := by
  obtain ⟨state, found, holders⟩ := accounts.get?_of_mem (Multiset.mem_cons_self b copies)
  have others : ∀ c, c ≠ b → copies.count c = (b ::ₘ copies).count c :=
    fun c other => (Multiset.count_cons_of_ne other copies).symm
  rw [Multiset.count_cons_self] at holders
  unfold World.dropBuffer
  simp only [found]
  split
  case isTrue last =>
    -- The last copy goes, and the surface goes before it.
    have released := accounts.releaseBuffer b
    obtain ⟨state', found', holders'⟩ := released.get?_of_mem (Multiset.mem_cons_self b copies)
    have none : state'.surface = none := by
      have held := held?_releaseBuffer w b
      rwa [held?, found', Option.bind_some] at held
    rw [Multiset.count_cons_self] at holders'
    refine released.recount found' rfl ?_ others (fun _ => none)
    show state'.holders - 1 = _
    rw [holders', Nat.add_sub_cancel]
  case isFalse more =>
    refine accounts.recount found rfl ?_ others (fun none => ?_)
    · show state.holders - 1 = _
      rw [holders, Nat.add_sub_cancel]
    · have none : state.holders - 1 = 0 := none
      omega

theorem Accounts.dropFrame (accounts : w.Accounts held (f.buffers + copies)) :
    (w.dropFrame f).Accounts held copies := by
  unfold World.dropFrame
  generalize f.buffers = buffers at accounts
  induction buffers generalizing w with
  | nil => simpa using accounts
  | cons b buffers ih =>
    rw [← Multiset.cons_coe, Multiset.cons_add] at accounts
    exact ih accounts.dropBuffer

theorem Accounts.retainFrame (accounts : w.Accounts held copies)
    (members : ∀ b ∈ f.buffers, b ∈ copies) :
    (w.retainFrame f).Accounts held (f.buffers + copies) := by
  unfold World.retainFrame
  generalize f.buffers = buffers at members
  induction buffers generalizing w copies with
  | nil => simpa using accounts
  | cons b buffers ih =>
    have after := ih (accounts.retainBuffer (members b List.mem_cons_self))
      (fun c member => Multiset.mem_cons_of_mem (members c (List.mem_cons_of_mem b member)))
    rw [Multiset.add_cons] at after
    rw [← Multiset.cons_coe, Multiset.cons_add]
    exact after

theorem created_releaseBuffer (w : World) (b : FrameBuffer) :
    (w.releaseBuffer b).media.created = w.media.created := by
  unfold World.releaseBuffer
  split
  · exact Media.created_release ..
  · rfl

theorem created_dropBuffer (w : World) (b : FrameBuffer) :
    (w.dropBuffer b).media.created = w.media.created := by
  unfold World.dropBuffer
  split
  · split
    · exact created_releaseBuffer w b
    · rfl
  · rfl

theorem created_dropFrame (w : World) (f : Frame) :
    (w.dropFrame f).media.created = w.media.created := by
  unfold World.dropFrame
  generalize f.buffers = buffers
  induction buffers generalizing w with
  | nil => rfl
  | cons b buffers ih => exact (ih (w.dropBuffer b)).trans (created_dropBuffer w b)

end World

end VideoScaler
