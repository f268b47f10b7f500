import Mathlib.Data.Finset.Card
import Mathlib.Data.Multiset.Bind
import VideoScaler.Proofs.Surface.Media

/-! The account of surfaces.

Whoever holds a surface is entered once for it. The runtime counts the holders of a surface one
by one, but what it tells are only surfaces made and surfaces gone; the entries tell how these
numbers belong together.
-/

set_option autoImplicit false

namespace VideoScaler

def entries : Option Surface → Multiset (Ref SurfaceState)
  | some s => {s.ref}
  | none => 0

theorem mem_entries {o : Option Surface} {r : Ref SurfaceState} :
    r ∈ entries o ↔ ∃ s, o = some s ∧ s.ref = r := by
  cases o with
  | none => simp [entries]
  | some s => simp [entries, eq_comm]

theorem entries_some_add (s : Surface) (held : Multiset (Ref SurfaceState)) :
    entries (some s) + held = s.ref ::ₘ held :=
  Multiset.singleton_add ..

theorem entries_none_add (held : Multiset (Ref SurfaceState)) : entries none + held = held :=
  zero_add held

namespace Media

/-- Are these all the holders there are, each by the surface it holds? -/
structure Accounts (m : Media) (held : Multiset (Ref SurfaceState)) : Prop where
  holders_eq : ∀ r, ((m.surfaces.get? r).map SurfaceState.holders).getD 0 = held.count r
  counted : ∀ r state, m.surfaces.get? r = some state → state.counted = true
  created_eq : m.created = m.released + held.toFinset.card

variable {m n : Media} {held : Multiset (Ref SurfaceState)} {s : Surface}
  {memory context : MemoryType} {format : SurfaceFormat} {width height : UInt32}

theorem Accounts.empty : Media.empty.Accounts 0 where
  holders_eq r := by simp [Media.empty]
  counted r state found := by simp [Media.empty] at found
  created_eq := rfl

theorem Accounts.get?_of_mem (accounts : m.Accounts held) {r : Ref SurfaceState}
    (member : r ∈ held) :
    ∃ state, m.surfaces.get? r = some state ∧ state.holders = held.count r := by
  have holders := accounts.holders_eq r
  cases found : m.surfaces.get? r with
  | none =>
    rw [found] at holders
    exact absurd holders.symm (Multiset.count_ne_zero.2 member)
  | some state =>
    rw [found] at holders
    exact ⟨state, rfl, holders⟩

theorem Accounts.of_error {ε : Type} (accounts : m.Accounts held) (e : ε) :
    m.Accounts (entries (Except.error e : Except ε Surface).toOption + held) := by
  rwa [Except.toOption, entries_none_add]

theorem Accounts.of_surfaces (accounts : m.Accounts held) (surfaces : n.surfaces = m.surfaces)
    (created : n.created = m.created) (released : n.released = m.released) : n.Accounts held where
  holders_eq := by
    rw [surfaces]
    exact accounts.holders_eq
  counted := by
    rw [surfaces]
    exact accounts.counted
  created_eq := by
    rw [created, released]
    exact accounts.created_eq

theorem Accounts.modify (accounts : m.Accounts held) {entered : Multiset (Ref SurfaceState)}
    {f : SurfaceState → SurfaceState} {released : Nat}
    (holders : ∀ state, m.surfaces.get? s.ref = some state →
      (f state).holders = entered.count s.ref)
    (absent : m.surfaces.get? s.ref = none → entered.count s.ref = 0)
    (others : ∀ r, r ≠ s.ref → entered.count r = held.count r)
    (counted : ∀ state, (f state).counted = state.counted)
    (created_eq : m.created = released + entered.toFinset.card) :
    ({ m.modifySurface s f with released } : Media).Accounts entered where
  holders_eq r := by
    by_cases same : s.ref = r
    · subst same
      simp only [modifySurface, Arena.get?_modify_self]
      cases found : m.surfaces.get? s.ref with
      | none => exact (absent found).symm
      | some state => exact holders state found
    · rw [others r (Ne.symm same), ← accounts.holders_eq r]
      simp only [modifySurface, Arena.get?_modify_of_ne same]
  counted r state found := by
    by_cases same : s.ref = r
    · subst same
      simp only [modifySurface, Arena.get?_modify_self, Option.map_eq_some_iff] at found
      obtain ⟨old, found, rfl⟩ := found
      rw [counted]
      exact accounts.counted s.ref old found
    · simp only [modifySurface, Arena.get?_modify_of_ne same] at found
      exact accounts.counted r state found
  created_eq := created_eq

theorem Accounts.modifySurface (accounts : m.Accounts held) {f : SurfaceState → SurfaceState}
    (holders : ∀ state, (f state).holders = state.holders)
    (counted : ∀ state, (f state).counted = state.counted) :
    (m.modifySurface s f).Accounts held := by
  have before := accounts.holders_eq s.ref
  refine accounts.modify (fun state found => ?_) (fun absent => ?_) (fun _ _ => rfl) counted
    accounts.created_eq
  · rw [found] at before
    exact (holders state).trans before
  · rw [absent] at before
    exact before.symm

theorem Accounts.setCrop (accounts : m.Accounts held) (s : Surface) (crop : Rect) :
    (m.setCrop s crop).Accounts held :=
  accounts.modifySurface (fun _ => rfl) (fun _ => rfl)

theorem Accounts.setPts (accounts : m.Accounts held) (s : Surface) (pts : Int64) :
    (m.setPts s pts).Accounts held :=
  accounts.modifySurface (fun _ => rfl) (fun _ => rfl)

theorem Accounts.setPlanes (accounts : m.Accounts held) (s : Surface) (planes : List Plane) :
    (m.setPlanes s planes).Accounts held := by
  unfold Media.setPlanes
  split
  · exact accounts.modifySurface (fun _ => rfl) (fun _ => rfl)
  · exact accounts.of_surfaces rfl rfl rfl
  · exact accounts.of_surfaces rfl rfl rfl

theorem Accounts.addSurface (accounts : m.Accounts held) (backing : Backing)
    (planes : List Plane) :
    (m.addSurface memory format width height backing planes true).2.Accounts
      ((m.addSurface memory format width height backing planes true).1.ref ::ₘ held) := by
  let state : SurfaceState := ⟨Surface.wholeRect width height, 0, 1, planes, true⟩
  show Media.Accounts { m with surfaces := (m.surfaces.add state).2, created := m.created + 1 }
    ((m.surfaces.add state).1 ::ₘ held)
  have new : (m.surfaces.add state).1 ∉ held := by
    intro member
    obtain ⟨old, found, -⟩ := accounts.get?_of_mem member
    exact Arena.add_ne_of_some found state rfl
  refine ⟨fun r => ?_, fun r other found => ?_, ?_⟩
  · by_cases same : (m.surfaces.add state).1 = r
    · subst same
      rw [Arena.get?_add_self, Multiset.count_cons_self, Multiset.count_eq_zero.2 new]
      rfl
    · rw [Arena.get?_add_of_ne same, Multiset.count_cons_of_ne (Ne.symm same)]
      exact accounts.holders_eq r
  · by_cases same : (m.surfaces.add state).1 = r
    · subst same
      rw [Arena.get?_add_self] at found
      cases found
      rfl
    · rw [Arena.get?_add_of_ne same] at found
      exact accounts.counted r other found
  · have entered : (m.surfaces.add state).1 ∉ held.toFinset := by simpa using new
    rw [Multiset.toFinset_cons, Finset.card_insert_of_notMem entered, accounts.created_eq]
    exact Nat.add_assoc ..

theorem Accounts.makeSurface (accounts : m.Accounts held) (memory : MemoryType)
    (format : SurfaceFormat) (width height : UInt32) (planes : List Plane) :
    (m.makeSurface memory format width height planes).2.Accounts
      ((m.makeSurface memory format width height planes).1.ref ::ₘ held) := by
  unfold Media.makeSurface
  split
  · have after : (m.addTexture 0 format width height [planes]).2.Accounts held :=
      accounts.of_surfaces rfl rfl rfl
    exact after.addSurface ..
  · have after : (m.addDx9 0 format width height planes).2.Accounts held :=
      accounts.of_surfaces rfl rfl rfl
    exact after.addSurface ..
  · exact accounts.addSurface ..

theorem created_makeSurface (m : Media) (memory : MemoryType) (format : SurfaceFormat)
    (width height : UInt32) (planes : List Plane) :
    (m.makeSurface memory format width height planes).2.created = m.created + 1 := by
  unfold Media.makeSurface
  split <;> rfl

theorem Accounts.allocSurface (accounts : m.Accounts held)
    (made : m.allocSurface context memory format width height = .ok (s, n)) :
    n.Accounts (s.ref ::ₘ held) := by
  obtain ⟨planes, made⟩ := makeSurface_of_allocSurface made
  have after := accounts.makeSurface memory format width height planes
  rwa [made] at after

theorem Accounts.wrapTexture (accounts : m.Accounts held) {t : Texture}
    (made : m.wrapTexture context t = .ok (s, n)) : n.Accounts (s.ref ::ₘ held) := by
  unfold Media.wrapTexture at made
  split at made
  · cases made
  · split at made <;> cases made
    exact accounts.addSurface ..

theorem Accounts.wrapDx9 (accounts : m.Accounts held) {picture : Dx9Surface}
    (made : m.wrapDx9 context picture = .ok (s, n)) : n.Accounts (s.ref ::ₘ held) := by
  unfold Media.wrapDx9 at made
  split at made <;> cases made
  exact accounts.addSurface ..

theorem Accounts.retain (accounts : m.Accounts held) (member : s.ref ∈ held) :
    (m.retain s).Accounts (s.ref ::ₘ held) := by
  obtain ⟨state, found, holders⟩ := accounts.get?_of_mem member
  refine accounts.modify (fun other same => ?_) (fun absent => ?_) (fun r other => ?_)
    (fun _ => rfl) ?_
  · rw [found] at same
    cases same
    rw [Multiset.count_cons_self, ← holders]
  · rw [found] at absent
    cases absent
  · exact Multiset.count_cons_of_ne other held
  · rw [Multiset.toFinset_cons, Finset.insert_eq_of_mem (Multiset.mem_toFinset.2 member)]
    exact accounts.created_eq

/-- The surface is gone when it was the last entry for it that is struck out. -/
theorem Accounts.release (accounts : m.Accounts (s.ref ::ₘ held)) :
    (m.release s).Accounts held := by
  obtain ⟨state, found, holders⟩ := accounts.get?_of_mem (Multiset.mem_cons_self s.ref held)
  have created := accounts.created_eq
  have others : ∀ r, r ≠ s.ref → held.count r = (s.ref ::ₘ held).count r :=
    fun r other => (Multiset.count_cons_of_ne other held).symm
  rw [Multiset.count_cons_self] at holders
  rw [Multiset.toFinset_cons] at created
  unfold Media.release
  simp only [found]
  split
  case isTrue last =>
    have gone : s.ref ∉ held := Multiset.count_eq_zero.1 (by omega)
    refine accounts.modify (fun _ _ => ?_) (fun absent => ?_) others (fun _ => rfl) ?_
    · exact (Multiset.count_eq_zero.2 gone).symm
    · rw [found] at absent
      cases absent
    · have entered : s.ref ∉ held.toFinset := by simpa using gone
      rw [Finset.card_insert_of_notMem entered] at created
      rw [created, accounts.counted s.ref state found, if_pos rfl]
      omega
  case isFalse more =>
    have still : s.ref ∈ held := Multiset.count_pos.1 (by omega)
    refine accounts.modify (fun other same => ?_) (fun absent => ?_) others (fun _ => rfl) ?_
    · rw [found] at same
      cases same
      show state.holders - 1 = _
      rw [holders, Nat.add_sub_cancel]
    · rw [found] at absent
      cases absent
    · rw [Finset.insert_eq_of_mem (Multiset.mem_toFinset.2 still)] at created
      exact created

theorem created_setPlanes (m : Media) (s : Surface) (planes : List Plane) :
    (m.setPlanes s planes).created = m.created := by
  unfold Media.setPlanes
  split <;> rfl

theorem created_release (m : Media) (s : Surface) : (m.release s).created = m.created := by
  unfold Media.release
  split
  · split <;> rfl
  · rfl

end Media

end VideoScaler
