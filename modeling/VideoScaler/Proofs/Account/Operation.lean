import VideoScaler.Proofs.Account.Filter

/-! What a caller of the library can do with surfaces, and what each operation enters and strikes
out.

An operation takes objects out of the hands of the caller and puts others there. It can be told
from these objects alone what it does to the holders of surfaces.
-/

set_option autoImplicit false

namespace VideoScaler

/-- What a caller has in hand and surfaces can hang on. -/
inductive Holder where
  | surface (s : Surface)
  | data (d : Data)
  | buffer (b : FrameBuffer)
  | frame (f : Frame)
  | component (c : Converter)
  | filter (f : ScaleFilter Converter)

namespace Holder

def discard : Holder → World → World
  | surface s, w => { w with media := w.media.release s }
  | data d, w => { w with media := d.discard w.media }
  | buffer b, w => w.dropBuffer b
  | frame f, w => w.dropFrame f
  | component c, w => { w with media := Component.discard c w.media }
  | filter f, w => (f.uninit w).2

def surface? : Holder → Option Surface
  | surface s => some s
  | data d => d.surface?
  | component c => c.pending
  | filter f => f.scaler.pending
  | buffer _ | frame _ => none

def buffers : Holder → Multiset FrameBuffer
  | buffer b => {b}
  | frame f => f.buffers
  | _ => 0

/-- All surfaces that hang on an object, on its own or in a buffer that was not released. -/
def surfaces (w : World) (o : Holder) : Multiset (Ref SurfaceState) :=
  entries o.surface? + o.buffers.bind fun b => entries (w.held? b)

end Holder

/-- An operation of the library. In one world it takes objects out of the hands of the caller,
and in the world that it leaves it puts others there. -/
inductive Operation : World → List Holder → World → List Holder → Prop where
  -- Native pictures, pools, and what is written to them
  | addTexture {w : World} (handle : UInt64) (format : SurfaceFormat) (width height : UInt32)
    (slices : List (List Plane)) :
    Operation w [] { w with media := (w.media.addTexture handle format width height slices).2 } []
  | addDx9 {w : World} (handle : UInt64) (format : SurfaceFormat) (width height : UInt32)
    (planes : List Plane) :
    Operation w [] { w with media := (w.media.addDx9 handle format width height planes).2 } []
  | setPrivateData {w : World} (t : Texture) (guid : Guid) (data : Bytes) :
    Operation w [] { w with media := w.media.setPrivateData t guid data } []
  | addPool {w v : World} {device : Device} {desc : PoolDesc} {pool : FramePool}
    (added : w.addPool device desc = .ok (pool, v)) : Operation w [] v []
  -- Surfaces
  | allocSurface {w : World} {context memory : MemoryType} {format : SurfaceFormat}
    {width height : UInt32} {s : Surface} {m : Media}
    (made : w.media.allocSurface context memory format width height = .ok (s, m)) :
    Operation w [] { w with media := m } [.surface s]
  | wrapTexture {w : World} {context : MemoryType} {t : Texture} {s : Surface} {m : Media}
    (made : w.media.wrapTexture context t = .ok (s, m)) :
    Operation w [] { w with media := m } [.surface s]
  | wrapDx9 {w : World} {context : MemoryType} {picture : Dx9Surface} {s : Surface} {m : Media}
    (made : w.media.wrapDx9 context picture = .ok (s, m)) :
    Operation w [] { w with media := m } [.surface s]
  | cloneSurface {w : World} (s : Surface) :
    Operation w [.surface s] { w with media := w.media.retain s } [.surface s, .surface s]
  | setCrop {w : World} (s : Surface) (crop : Rect) :
    Operation w [.surface s] { w with media := w.media.setCrop s crop } [.surface s]
  | setPts {w : World} (s : Surface) (pts : Int64) :
    Operation w [.surface s] { w with media := w.media.setPts s pts } [.surface s]
  | setPlanes {w : World} (s : Surface) (planes : List Plane) :
    Operation w [.surface s] { w with media := w.media.setPlanes s planes } [.surface s]
  -- Data
  | wrapSurface {w : World} (s : Surface) : Operation w [.surface s] w [.data (.surface s)]
  | wrapBytes {w : World} (bytes : Bytes) : Operation w [] w [.data (.buffer bytes)]
  /-- Data is asked for its surface, which gets one more holder. -/
  | surfaceOfData {w : World} (s : Surface) :
    Operation w [.data (.surface s)] { w with media := w.media.retain s }
      [.data (.surface s), .surface s]
  -- Buffers
  | addBuffer {w : World} (s : Surface) (notifies : Bool) :
    Operation w [.surface s] (w.addBuffer s notifies).2 [.buffer (w.addBuffer s notifies).1]
  | cloneBuffer {w : World} (b : FrameBuffer) :
    Operation w [.buffer b] (w.retainBuffer b) [.buffer b, .buffer b]
  | releaseBuffer {w : World} (b : FrameBuffer) :
    Operation w [.buffer b] (w.releaseBuffer b) [.buffer b]
  /-- A buffer is asked for its surface, which gets one more holder. -/
  | surfaceOfBuffer {w : World} {b : FrameBuffer} {s : Surface} (holds : w.held? b = some s) :
    Operation w [.buffer b] { w with media := w.media.retain s } [.buffer b, .surface s]
  -- Frames
  | assemble {w : World} (f : Frame) : Operation w (f.buffers.map .buffer) w [.frame f]
  | takeApart {w : World} (f : Frame) : Operation w [.frame f] w (f.buffers.map .buffer)
  | cloneFrame {w : World} (f : Frame) :
    Operation w [.frame f] (w.retainFrame f) [.frame f, .frame f]
  | newFrame {w : World} (pool : FramePool) :
    Operation w [] (w.newFrame pool).2 [.frame (w.newFrame pool).1]
  -- Components
  | createComponent {w : World} {memory : MemoryType} {id : String} {c : Converter}
    (made : softwareRuntime.createComponent memory id = .ok c) : Operation w [] w [.component c]
  | setProperty {w : World} (c : Converter) (name : String) (value : Variant) :
    Operation w [.component c] w [.component (Component.setProperty c name value).2]
  | init {w : World} (c : Converter) (format : SurfaceFormat) (width height : Int32) :
    Operation w [.component c] w [.component (Component.init c format width height).2]
  | submit {w : World} {c d : Converter} {data : Data} {result : Attempt Status Unit} {m : Media}
    (submitted : Component.submit c data w.media = (result, d, m)) :
    Operation w [.component c, .data data] { w with media := m } [.component d]
  | query {w : World} {c d : Converter} {result : Except Status Data} {m : Media}
    (asked : Component.query c w.media = (result, d, m)) :
    Operation w [.component c] { w with media := m }
      (.component d :: result.toOption.toList.map .data)
  | terminate {w : World} {c d : Converter} {result : Except Status Unit} {m : Media}
    (terminated : Component.terminate c w.media = (result, d, m)) :
    Operation w [.component c] { w with media := m } [.component d]
  -- Filters
  | initFilter {w : World} {config : ScaleConfig} {device : Option Device}
    {f : ScaleFilter Converter} (made : ScaleFilter.init config device = .ok f) :
    Operation w [] w [.filter f]
  | configOutput {w v : World} {f g : ScaleFilter Converter} {link : InputLink}
    {outFormat : PixelFormat} {result : Except Error OutputLink}
    (configured : f.configOutput softwareRuntime link outFormat w = (result, g, v)) :
    Operation w [.filter f] v [.filter g]
  | filterFrame {w v : World} {f g : ScaleFilter Converter} {input : Frame}
    {result : Attempt Error Frame} (filtered : f.filterFrame input w = (result, g, v)) :
    Operation w [.filter f, .frame input] v (.filter g :: result.toOption.toList.map .frame)
  | uninit {w : World} (f : ScaleFilter Converter) :
    Operation w [.filter f] (f.uninit w).2 [.filter (f.uninit w).1]
  -- Dropping
  | drop {w : World} (o : Holder) : Operation w [o] (o.discard w) []

def ownedBy (os : Multiset Holder) : Multiset (Ref SurfaceState) :=
  os.bind fun o => entries o.surface?

def copiesIn (os : Multiset Holder) : Multiset FrameBuffer :=
  os.bind fun o => o.buffers

theorem ownedBy_add (os others : Multiset Holder) :
    ownedBy (os + others) = ownedBy os + ownedBy others :=
  Multiset.add_bind ..

theorem copiesIn_add (os others : Multiset Holder) :
    copiesIn (os + others) = copiesIn os + copiesIn others :=
  Multiset.add_bind ..

theorem ownedBy_nil : ownedBy ([] : List Holder) = 0 := rfl

theorem ownedBy_cons (o : Holder) (os : List Holder) :
    ownedBy (o :: os : List Holder) = entries o.surface? + ownedBy os := by
  rw [← Multiset.cons_coe, ownedBy, Multiset.cons_bind]
  rfl

theorem copiesIn_nil : copiesIn ([] : List Holder) = 0 := rfl

theorem copiesIn_cons (o : Holder) (os : List Holder) :
    copiesIn (o :: os : List Holder) = o.buffers + copiesIn os := by
  rw [← Multiset.cons_coe, copiesIn, Multiset.cons_bind]
  rfl

theorem ownedBy_buffers (bs : List FrameBuffer) :
    ownedBy (bs.map Holder.buffer : List Holder) = 0 := by
  induction bs with
  | nil => rfl
  | cons b bs ih => rw [List.map_cons, ownedBy_cons, ih, Holder.surface?, entries_none_add]

theorem copiesIn_buffers (bs : List FrameBuffer) :
    copiesIn (bs.map Holder.buffer : List Holder) = bs := by
  induction bs with
  | nil => rfl
  | cons b bs ih =>
    rw [List.map_cons, copiesIn_cons, ih, Holder.buffers, Multiset.singleton_add, Multiset.cons_coe]

theorem ownedBy_data (data : Option Data) :
    ownedBy (data.toList.map Holder.data : List Holder) = entries (data.bind Data.surface?) := by
  cases data with
  | none => rfl
  | some d => exact (ownedBy_cons (.data d) []).trans (add_zero _)

theorem copiesIn_data (data : Option Data) :
    copiesIn (data.toList.map Holder.data : List Holder) = 0 := by
  cases data with
  | none => rfl
  | some d => exact (copiesIn_cons (.data d) []).trans (add_zero _)

theorem ownedBy_frame (frame : Option Frame) :
    ownedBy (frame.toList.map Holder.frame : List Holder) = 0 := by
  cases frame with
  | none => rfl
  | some f => exact (ownedBy_cons (.frame f) []).trans (add_zero _)

theorem copiesIn_frame (frame : Option Frame) :
    copiesIn (frame.toList.map Holder.frame : List Holder) = copiesOf frame := by
  cases frame with
  | none => rfl
  | some f => exact (copiesIn_cons (.frame f) []).trans (add_zero _)

variable {w v : World} {held : Multiset (Ref SurfaceState)} {copies : Multiset FrameBuffer}

theorem World.Accounts.discard {o : Holder}
    (accounts : w.Accounts (entries o.surface? + held) (o.buffers + copies)) :
    (o.discard w).Accounts held copies := by
  cases o with
  | surface s =>
    change w.Accounts (entries (some s) + held) (0 + copies) at accounts
    rw [entries_some_add, zero_add] at accounts
    exact accounts.release
  | data d =>
    have media : w.media.Accounts (entries d.surface? + held + w.buffered) := accounts.media
    change w.Accounts _ (0 + copies) at accounts
    rw [zero_add] at accounts
    rw [add_assoc] at media
    exact accounts.of_media media.discardData
  | buffer b =>
    change w.Accounts (entries none + held) ({b} + copies) at accounts
    rw [entries_none_add, Multiset.singleton_add] at accounts
    exact accounts.dropBuffer
  | frame f =>
    change w.Accounts (entries none + held) (f.buffers + copies) at accounts
    rw [entries_none_add] at accounts
    exact accounts.dropFrame
  | component c =>
    have media : w.media.Accounts (entries c.pending + held + w.buffered) := accounts.media
    change w.Accounts _ (0 + copies) at accounts
    rw [zero_add] at accounts
    rw [add_assoc] at media
    exact accounts.of_media media.discard
  | filter f =>
    change w.Accounts (entries f.scaler.pending + held) (0 + copies) at accounts
    rw [zero_add] at accounts
    exact accounts.uninit.1

/-- Whatever else is held: an operation enters what it gives and strikes out what it takes. -/
theorem Operation.accounts {taken given : List Holder} (operation : Operation w taken v given)
    (accounts : w.Accounts (ownedBy taken + held) (copiesIn taken + copies)) :
    v.Accounts (ownedBy given + held) (copiesIn given + copies) := by
  cases operation
  all_goals simp only [ownedBy_nil, ownedBy_cons, ownedBy_buffers, copiesIn_nil, copiesIn_cons,
    copiesIn_buffers, ownedBy_data, copiesIn_data, ownedBy_frame, copiesIn_frame, Holder.surface?,
    Holder.buffers, Data.surface?, entries_some_add, entries_none_add, add_zero, zero_add,
    add_assoc, Multiset.singleton_add, Multiset.cons_add]
    at accounts ⊢
  case addTexture => exact accounts.of_media (accounts.media.of_surfaces rfl rfl rfl)
  case addDx9 => exact accounts.of_media (accounts.media.of_surfaces rfl rfl rfl)
  case setPrivateData => exact accounts.of_media (accounts.media.of_surfaces rfl rfl rfl)
  case addPool added =>
    obtain ⟨pools, rfl⟩ := Setup.pools_of_addPool added
    exact accounts.of_pools pools
  case allocSurface made => exact accounts.with_surface (accounts.media.allocSurface made)
  case wrapTexture made => exact accounts.with_surface (accounts.media.wrapTexture made)
  case wrapDx9 made => exact accounts.with_surface (accounts.media.wrapDx9 made)
  case cloneSurface s =>
    exact accounts.retain (Multiset.mem_add.2 (.inl (Multiset.mem_cons_self ..)))
  case setCrop => exact accounts.of_media (accounts.media.setCrop ..)
  case setPts => exact accounts.of_media (accounts.media.setPts ..)
  case setPlanes => exact accounts.of_media (accounts.media.setPlanes ..)
  case wrapSurface => exact accounts
  case wrapBytes => exact accounts
  case surfaceOfData s =>
    exact accounts.retain (Multiset.mem_add.2 (.inl (Multiset.mem_cons_self ..)))
  case addBuffer => exact accounts.addBuffer _
  case cloneBuffer => exact accounts.retainBuffer (Multiset.mem_cons_self ..)
  case releaseBuffer => exact accounts.releaseBuffer _
  case surfaceOfBuffer holds =>
    exact accounts.retain (Multiset.mem_add.2 (.inr (World.mem_buffered.2 ⟨_, _, holds, rfl⟩)))
  case assemble => exact accounts
  case takeApart => exact accounts
  case cloneFrame f =>
    exact accounts.retainFrame fun b member => Multiset.mem_add.2 (.inl (Multiset.mem_coe.2 member))
  case newFrame pool =>
    show World.Accounts _ held (0 + copies)
    rw [zero_add]
    exact accounts.of_pools _
  case createComponent made =>
    have idle := Converter.pending_createComponent made
    rwa [idle, entries_none_add]
  case setProperty c name value =>
    rw [show (Component.setProperty c name value).2.pending = c.pending from
      Converter.pending_setProperty ..]
    exact accounts
  case init c format width height =>
    rw [show (Component.init c format width height).2.pending = c.pending from
      Converter.pending_init ..]
    exact accounts
  case submit c d data result m submitted =>
    have media := accounts.media
    rw [add_assoc, add_assoc, add_left_comm] at media
    exact accounts.with_entry (media.submit submitted)
  case query c d result m asked =>
    have media := accounts.media
    rw [add_assoc] at media
    refine accounts.of_media ?_
    rw [add_assoc, add_assoc, add_left_comm]
    exact media.query asked
  case terminate c d result m terminated =>
    have media := accounts.media
    rw [add_assoc] at media
    have after := media.discard
    cases terminated
    rw [entries_none_add]
    exact accounts.of_media after
  case initFilter made =>
    have idle := ScaleFilter.pending_init made
    rwa [idle, entries_none_add]
  case configOutput configured => exact accounts.configOutput configured
  case filterFrame filtered =>
    rw [ScaleFilter.pending_filterFrame filtered]
    exact accounts.filterFrame filtered
  case uninit f =>
    obtain ⟨after, idle⟩ := accounts.uninit
    rwa [idle, entries_none_add]
  case drop => exact accounts.discard

end VideoScaler
