import VideoScaler.Filter.Bridge
import VideoScaler.Proofs.Frame.Buffer

/-! What becomes of the surface of a buffer.

A buffer has one reference to its surface, whatever the number of its copies. It gives this
reference up once and tells its maker then: when a copy is released for the first time, or when
the last copy is dropped before. References that were asked for earlier do not depend on it.
-/

set_option autoImplicit false

namespace VideoScaler

/-! ### References to a surface -/

def SurfaceState.heldBy (state : SurfaceState) : Nat → SurfaceState
  | 0 => { state with holders := 0, planes := [] }
  | n + 1 => { state with holders := n + 1 }

namespace Media

variable {m n : Media} {s : Surface} {state : SurfaceState} {k : Nat}

/-- Does a surface have this number of holders now, and has it been counted as released exactly
if there are none? -/
structure Held (m n : Media) (s : Surface) (state : SurfaceState) (k : Nat) : Prop where
  surface : n.surfaces.get? s.ref = some (state.heldBy k)
  created_eq : n.created = m.created
  released_eq : n.released = m.released + if k = 0 ∧ state.counted = true then 1 else 0
  textures_eq : n.textures = m.textures
  dx9_eq : n.dx9 = m.dx9

theorem Held.retain (held : m.Held n s state (k + 1)) :
    m.Held (n.retain s) s state (k + 2) where
  surface := by
    simp only [Media.retain, modifySurface, Arena.get?_modify_self, held.surface, Option.map_some]
    rfl
  created_eq := held.created_eq
  released_eq := held.released_eq
  textures_eq := held.textures_eq
  dx9_eq := held.dx9_eq

theorem Held.release (held : m.Held n s state (k + 1)) : m.Held (n.release s) s state k := by
  have released_eq := held.released_eq
  unfold Media.release
  simp only [held.surface]
  cases k with
  | zero =>
    refine ⟨?_, held.created_eq, ?_, held.textures_eq, held.dx9_eq⟩
    · simp [modifySurface, held.surface, SurfaceState.heldBy]
    · simpa [SurfaceState.heldBy] using released_eq
  | succ k =>
    refine ⟨?_, held.created_eq, ?_, held.textures_eq, held.dx9_eq⟩
    · simp [modifySurface, held.surface, SurfaceState.heldBy]
    · simpa [modifySurface, SurfaceState.heldBy] using released_eq

theorem Held.unchanged (held : m.Held n s state k) (found : m.surfaces.get? s.ref = some state)
    (pos : 0 < k) : n.planes s = m.planes s ∧ n.crop s = m.crop s ∧ n.pts s = m.pts s := by
  obtain ⟨k, rfl⟩ := Nat.exists_eq_add_one.2 pos
  have surface := held.surface
  refine ⟨?_, ?_, ?_⟩
  · unfold planes slice?
    rw [found, surface, held.textures_eq, held.dx9_eq]
    rfl
  · unfold crop
    rw [found, surface]
    rfl
  · unfold pts
    rw [found, surface]
    rfl

theorem Held.live_eq (held : m.Held n s state k) :
    n.live = m.live - if k = 0 ∧ state.counted = true then 1 else 0 := by
  rw [live, live, held.created_eq, held.released_eq, Nat.sub_sub]

end Media

/-! ### Deeds and what follows from them -/

inductive BufferDeed where
  | clone
  /-- A copy is asked for a reference to the surface. -/
  | surface
  | release
  | drop
  /-- A reference is copied. -/
  | share
  /-- A reference is dropped. -/
  | letGo
  deriving DecidableEq

namespace BufferDeed

/-- The copies of a buffer that are left, after these deeds, the last one first. -/
def copies : List BufferDeed → Nat
  | [] => 1
  | clone :: earlier => copies earlier + 1
  | drop :: earlier => copies earlier - 1
  | _ :: earlier => copies earlier

/-- Has a buffer been released, or lost its last copy? -/
def GivenUp (deeds : List BufferDeed) : Prop :=
  release ∈ deeds ∨ copies deeds = 0

instance (deeds : List BufferDeed) : Decidable (GivenUp deeds) :=
  inferInstanceAs (Decidable (_ ∨ _))

/-- The references to a surface apart from that of the buffer. There were `others` before. -/
def references (others : Nat) : List BufferDeed → Nat
  | [] => others
  | surface :: earlier => references others earlier + if GivenUp earlier then 0 else 1
  | share :: earlier => references others earlier + 1
  | letGo :: earlier => references others earlier - 1
  | _ :: earlier => references others earlier

/-- The references to a surface, with that of the buffer as long as it has one. -/
def holders (others : Nat) (deeds : List BufferDeed) : Nat :=
  references others deeds + if GivenUp deeds then 0 else 1

/-- Are all of these deeds possible, one after the other? Something is done with a copy or with
a reference only if there is one. -/
def Possible (others : Nat) : List BufferDeed → Prop
  | [] => True
  | share :: earlier | letGo :: earlier => Possible others earlier ∧ 0 < references others earlier
  | _ :: earlier => Possible others earlier ∧ 0 < copies earlier

instance decidablePossible (others : Nat) :
    (deeds : List BufferDeed) → Decidable (Possible others deeds)
  | [] => .isTrue trivial
  | share :: earlier | letGo :: earlier =>
    have := decidablePossible others earlier
    inferInstanceAs (Decidable (_ ∧ 0 < references others earlier))
  | clone :: earlier | surface :: earlier | release :: earlier | drop :: earlier =>
    have := decidablePossible others earlier
    inferInstanceAs (Decidable (_ ∧ 0 < copies earlier))

end BufferDeed

namespace World

variable {w v : World} {b : FrameBuffer} {s : Surface}

def surfaceOf (w : World) (b : FrameBuffer) : Option Surface × World :=
  match w.held? b with
  | some s => (some s, { w with media := w.media.retain s })
  | none => (none, w)

theorem surfaceOf_fst (w : World) (b : FrameBuffer) : (w.surfaceOf b).1 = w.held? b := by
  unfold surfaceOf
  split
  case h_1 held => exact held.symm
  case h_2 none => exact none.symm

def after (b : FrameBuffer) (s : Surface) (w : World) : BufferDeed → World
  | .clone => w.retainBuffer b
  | .surface => (w.surfaceOf b).2
  | .release => w.releaseBuffer b
  | .drop => w.dropBuffer b
  | .share => { w with media := w.media.retain s }
  | .letGo => { w with media := w.media.release s }

def afterAll (b : FrameBuffer) (s : Surface) (w : World) : List BufferDeed → World
  | [] => w
  | deed :: earlier => (w.afterAll b s earlier).after b s deed

end World

/-! ### What holds after every deed -/

namespace BufferDeed

variable {deed : BufferDeed} {deeds : List BufferDeed} {others : Nat}

/-- A buffer is given up by the first release and with the last copy, and by nothing else. -/
theorem givenUp_cons_iff (possible : Possible others (deed :: deeds)) :
    GivenUp (deed :: deeds) ↔
      GivenUp deeds ∨ deed = release ∨ deed = drop ∧ copies deeds = 1 := by
  have last (alive : 0 < copies deeds) : copies deeds - 1 = 0 ↔ copies deeds = 1 := by omega
  cases deed with
  | share | letGo => simp [GivenUp, copies]
  | clone | surface | release => simp [GivenUp, copies, Nat.ne_of_gt possible.2]
  | drop => simp [GivenUp, copies, Nat.ne_of_gt possible.2, last possible.2]

theorem possible_of_cons (possible : Possible others (deed :: deeds)) : Possible others deeds := by
  cases deed <;> exact possible.1

theorem holders_of_givenUp (given : GivenUp deeds) :
    holders others deeds = references others deeds := by
  rw [holders, if_pos given, Nat.add_zero]

theorem holders_of_not_givenUp (keeps : ¬ GivenUp deeds) :
    holders others deeds = references others deeds + 1 := by
  rw [holders, if_neg keeps]

end BufferDeed

namespace World

open BufferDeed

/-- How a buffer and its surface stand after some deeds, compared with the media at first. -/
structure Stands (m : Media) (v : World) (b : FrameBuffer) (s : Surface) (state : SurfaceState)
    (notifies : Bool) (others : Nat) (deeds : List BufferDeed) : Prop where
  buffer : v.buffers.get? b = some
    ⟨if GivenUp deeds then none else some s, copies deeds, notifies,
      if GivenUp deeds ∧ notifies = true then 1 else 0⟩
  media : m.Held v.media s state (holders others deeds)

variable {m : Media} {v : World} {b : FrameBuffer} {s : Surface} {state : SurfaceState}
  {notifies : Bool} {others : Nat} {deeds later : List BufferDeed}

theorem Stands.held?_eq (stands : Stands m v b s state notifies others deeds) :
    v.held? b = if GivenUp deeds then none else some s := by
  rw [held?, stands.buffer]
  rfl

theorem Stands.recount (stands : Stands m v b s state notifies others deeds) {f : Nat → Nat}
    (given : GivenUp later ↔ GivenUp deeds) (copies_eq : copies later = f (copies deeds))
    (references_eq : references others later = references others deeds) :
    Stands m { v with buffers := v.buffers.modify b fun state =>
      { state with holders := f state.holders } } b s state notifies others later where
  buffer := by
    simp only [Arena.get?_modify_self, stands.buffer, Option.map_some, given, copies_eq]
  media := by
    simp only [holders, given, references_eq]
    exact stands.media

theorem Stands.withMedia (stands : Stands m v b s state notifies others deeds) {n : Media}
    (given : GivenUp later ↔ GivenUp deeds) (copies_eq : copies later = copies deeds)
    (media : m.Held n s state (holders others later)) :
    Stands m { v with media := n } b s state notifies others later where
  buffer := by
    simp only [given, copies_eq]
    exact stands.buffer
  media := media

theorem Stands.clone (stands : Stands m v b s state notifies others deeds)
    (possible : Possible others (.clone :: deeds)) :
    Stands m (v.retainBuffer b) b s state notifies others (.clone :: deeds) :=
  stands.recount (f := (· + 1)) (by simp [givenUp_cons_iff possible]) rfl rfl

theorem Stands.release (stands : Stands m v b s state notifies others deeds) :
    Stands m (v.releaseBuffer b) b s state notifies others (.release :: deeds) := by
  have held := stands.held?_eq
  have media := stands.media
  have given : GivenUp (.release :: deeds) := .inl List.mem_cons_self
  unfold releaseBuffer
  by_cases before : GivenUp deeds
  · rw [if_pos before] at held
    rw [holders_of_givenUp before] at media
    simp only [held]
    refine stands.withMedia (iff_of_true given before) rfl ?_
    rw [holders_of_givenUp given]
    exact media
  · rw [if_neg before] at held
    rw [holders_of_not_givenUp before] at media
    simp only [held]
    constructor
    case buffer => simp [stands.buffer, before, given, copies]
    case media =>
      rw [holders_of_givenUp given]
      exact media.release

theorem Stands.drop (stands : Stands m v b s state notifies others deeds)
    (possible : Possible others (.drop :: deeds)) :
    Stands m (v.dropBuffer b) b s state notifies others (.drop :: deeds) := by
  unfold dropBuffer
  simp only [stands.buffer]
  split
  case isTrue last =>
    have given : GivenUp (.drop :: deeds) := (givenUp_cons_iff possible).2 (.inr (.inr ⟨rfl, last⟩))
    exact stands.release.recount (f := (· - 1))
      (iff_of_true given (.inl List.mem_cons_self)) rfl rfl
  case isFalse more =>
    exact stands.recount (f := (· - 1)) (by simp [givenUp_cons_iff possible, more]) rfl rfl

theorem Stands.surface (stands : Stands m v b s state notifies others deeds)
    (possible : Possible others (.surface :: deeds)) :
    Stands m (v.surfaceOf b).2 b s state notifies others (.surface :: deeds) := by
  have held := stands.held?_eq
  have media := stands.media
  have given : GivenUp (.surface :: deeds) ↔ GivenUp deeds := by simp [givenUp_cons_iff possible]
  unfold surfaceOf
  by_cases before : GivenUp deeds
  · rw [if_pos before] at held
    simp only [held]
    refine stands.withMedia given rfl ?_
    rw [holders_of_givenUp before] at media
    rw [holders_of_givenUp (given.2 before), references, if_pos before]
    exact media
  · rw [if_neg before] at held
    simp only [held]
    refine stands.withMedia given rfl ?_
    rw [holders_of_not_givenUp before] at media
    rw [holders_of_not_givenUp (mt given.1 before), references, if_neg before]
    exact media.retain

theorem holders_pos (some : 0 < references others deeds) :
    holders others deeds = holders others deeds - 1 + 1 := by
  unfold holders
  omega

theorem Stands.share (stands : Stands m v b s state notifies others deeds)
    (possible : Possible others (.share :: deeds)) :
    Stands m { v with media := v.media.retain s } b s state notifies others (.share :: deeds) := by
  have given : GivenUp (.share :: deeds) ↔ GivenUp deeds := by simp [givenUp_cons_iff possible]
  have some : 0 < references others deeds := possible.2
  have media := stands.media
  refine stands.withMedia given rfl ?_
  rw [holders_pos some] at media
  have holders_eq : holders others (.share :: deeds) = holders others deeds - 1 + 2 := by
    simp only [holders, given, references]
    omega
  rw [holders_eq]
  exact media.retain

theorem Stands.letGo (stands : Stands m v b s state notifies others deeds)
    (possible : Possible others (.letGo :: deeds)) :
    Stands m { v with media := v.media.release s } b s state notifies others (.letGo :: deeds) := by
  have given : GivenUp (.letGo :: deeds) ↔ GivenUp deeds := by simp [givenUp_cons_iff possible]
  have some : 0 < references others deeds := possible.2
  have media := stands.media
  refine stands.withMedia given rfl ?_
  rw [holders_pos some] at media
  have holders_eq : holders others (.letGo :: deeds) = holders others deeds - 1 := by
    simp only [holders, given, references]
    omega
  rw [holders_eq]
  exact media.release

theorem Stands.after (stands : Stands m v b s state notifies others deeds) {deed : BufferDeed}
    (possible : Possible others (deed :: deeds)) :
    Stands m (v.after b s deed) b s state notifies others (deed :: deeds) := by
  cases deed with
  | clone => exact stands.clone possible
  | surface => exact stands.surface possible
  | release => exact stands.release
  | drop => exact stands.drop possible
  | share => exact stands.share possible
  | letGo => exact stands.letGo possible

theorem stands_addBuffer {w : World} (found : w.media.surfaces.get? s.ref = some state)
    (pos : 0 < state.holders) (notifies : Bool) :
    Stands w.media (w.addBuffer s notifies).2 (w.addBuffer s notifies).1 s state notifies
      (state.holders - 1) [] := by
  have keeps : ¬ GivenUp [] := by decide
  obtain ⟨k, holders_eq⟩ := Nat.exists_eq_add_one.2 pos
  have state_eq : state = state.heldBy (k + 1) := by
    rw [SurfaceState.heldBy, ← holders_eq]
  constructor
  case buffer => simp [addBuffer, keeps, copies]
  case media =>
    rw [holders_of_not_givenUp keeps, references, holders_eq, Nat.add_sub_cancel]
    exact ⟨found.trans (congrArg some state_eq), rfl, by simp [addBuffer], rfl, rfl⟩

theorem stands_afterAll {w : World} (found : w.media.surfaces.get? s.ref = some state)
    (pos : 0 < state.holders) (notifies : Bool) (possible : Possible (state.holders - 1) deeds) :
    Stands w.media
      ((w.addBuffer s notifies).2.afterAll (w.addBuffer s notifies).1 s deeds)
      (w.addBuffer s notifies).1 s state notifies (state.holders - 1) deeds := by
  induction deeds with
  | nil => exact stands_addBuffer found pos notifies
  | cons deed earlier ih => exact (ih (possible_of_cons possible)).after possible

def notified (w : World) (b : FrameBuffer) : Nat :=
  ((w.buffers.get? b).map BufferState.notified).getD 0

theorem Stands.notified_eq (stands : Stands m v b s state notifies others deeds) :
    v.notified b = if GivenUp deeds ∧ notifies = true then 1 else 0 := by
  rw [notified, stands.buffer]
  rfl

/-- The maker is told by the deed with which the buffer is given up, and by no other one. -/
theorem Stands.notified_after (stands : Stands m v b s state notifies others deeds)
    {deed : BufferDeed} (possible : Possible others (deed :: deeds)) :
    (v.after b s deed).notified b = v.notified b +
      if notifies = true ∧ ¬ GivenUp deeds ∧
        (deed = .release ∨ deed = .drop ∧ copies deeds = 1) then 1 else 0 := by
  simp only [(stands.after possible).notified_eq, stands.notified_eq, givenUp_cons_iff possible]
  by_cases before : GivenUp deeds <;> simp [before, and_comm]

/-- Whatever is done with the copies of a buffer and with references to its surface, the buffer
gives up its own reference once, and its maker is told then: with the first release, or with the
last copy. Before that every copy has new references to give, afterwards none has. The surface is
what it was as long as there are references to it, and counts as live until there are none. -/
theorem gives_up_once (w : World) (s : Surface) (state : SurfaceState) (notifies : Bool)
    (deeds : List BufferDeed) (found : w.media.surfaces.get? s.ref = some state)
    (pos : 0 < state.holders) (possible : Possible (state.holders - 1) deeds) :
    let b := (w.addBuffer s notifies).1
    let v := (w.addBuffer s notifies).2.afterAll b s deeds
    let left := holders (state.holders - 1) deeds
    Stands w.media v b s state notifies (state.holders - 1) deeds ∧
    v.isLive b = !decide (GivenUp deeds) ∧
    (v.surfaceOf b).1 = (if GivenUp deeds then none else some s) ∧
    (0 < left → v.media.planes s = w.media.planes s ∧ v.media.crop s = w.media.crop s ∧
      v.media.pts s = w.media.pts s) ∧
    v.media.live = w.media.live - (if left = 0 ∧ state.counted = true then 1 else 0) ∧
    ∀ deed, Possible (state.holders - 1) (deed :: deeds) →
      (v.after b s deed).notified b = v.notified b +
        if notifies = true ∧ ¬ GivenUp deeds ∧
          (deed = .release ∨ deed = .drop ∧ copies deeds = 1) then 1 else 0 := by
  have stands := stands_afterAll found pos notifies possible
  refine ⟨stands, ?_, ?_, stands.media.unchanged found, stands.media.live_eq,
    fun deed => stands.notified_after⟩
  · rw [isLive, stands.held?_eq]
    by_cases given : GivenUp deeds <;> simp [given]
  · rw [surfaceOf_fst, stands.held?_eq]

theorem gives_up_once_released :
    let s := (Media.empty.makeSurface .host .nv12 4 2 []).1
    let w : World := { World.empty with media := (Media.empty.makeSurface .host .nv12 4 2 []).2 }
    let b := (w.addBuffer s true).1
    let v := (w.addBuffer s true).2.afterAll b s
      [.letGo, .drop, .release, .release, .surface, .clone]
    (v.surfaceOf b).1 = none ∧ v.media.live = 0 ∧
      (v.after b s .drop).notified b = v.notified b := by
  intro s w b v
  obtain ⟨-, -, none, -, live, told⟩ := gives_up_once w s
    ⟨Surface.wholeRect 4 2, 0, 1, [], true⟩ true
    [.letGo, .drop, .release, .release, .surface, .clone] rfl (by decide) (by decide)
  refine ⟨none.trans (if_pos (by decide)), live.trans ?_, (told .drop (by decide)).trans ?_⟩
  · rw [if_pos (by decide)]
    rfl
  · rw [if_neg (by decide), Nat.add_zero]

end World

end VideoScaler
