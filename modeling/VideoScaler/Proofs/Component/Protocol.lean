import VideoScaler.Proofs.Component.Converter
import VideoScaler.Proofs.Surface.Content

/-! What callers can rely on when they use a converter.

The calls that have succeeded so far tell what the next one comes to. A converter owes a result
for the data that it has taken in until the result is handed out or discarded, and it never owes
more than one. Calls that fail count for nothing.
-/

set_option autoImplicit false

namespace VideoScaler

/-- A call that has succeeded. Data that was taken in is known by what it became and by the time
stamp it came with. -/
inductive Deed where
  | set (name : String) (value : Variant)
  | started (format : SurfaceFormat) (width height : Int32)
  | took (output : Surface) (pts : Int64)
  | gave (output : Surface)
  | stopped

/-- A result that is owed. The layout and the size are those that were asked for when the data
was taken in. -/
structure Promise where
  output : Surface
  pts : Int64
  asked : Option (SurfaceFormat × Int32 × Int32)

/-! ### What follows from the calls so far, the last one first -/

namespace Deed

def property? (name : String) : List Deed → Option Variant
  | [] => none
  | set other value :: earlier => if name = other then some value else property? name earlier
  | _ :: earlier => property? name earlier

/-- The layout and size of surfaces to take in, unless the converter has been stopped since. -/
def input? : List Deed → Option (SurfaceFormat × Int32 × Int32)
  | [] | stopped :: _ => none
  | started format width height :: _ => some (format, width, height)
  | _ :: earlier => input? earlier

def ended : List Deed → Bool
  | [] | started _ _ _ :: _ => false
  | stopped :: _ => true
  | _ :: earlier => ended earlier

def layout? (earlier : List Deed) : Option SurfaceFormat :=
  (((property? Property.outputFormat earlier).bind Variant.integer?).map
    fun code => SurfaceFormat.ofCode code.toInt).filter (· ≠ .unknown)

def size? (earlier : List Deed) : Option (Int32 × Int32) :=
  (property? Property.outputSize earlier).bind Variant.size?

/-- The layout and size of results: what was set, or else what the input has. -/
def asked? (earlier : List Deed) : Option (SurfaceFormat × Int32 × Int32) :=
  (input? earlier).map fun (format, size) =>
    ((layout? earlier).getD format, (size? earlier).getD size)

/-- The results that were neither handed out nor discarded, in the order of the data. -/
def due : List Deed → List Promise
  | [] | stopped :: _ => []
  | took output pts :: earlier => due earlier ++ [⟨output, pts, asked? earlier⟩]
  | gave output :: earlier => (due earlier).filter (·.output.ref ≠ output.ref)
  | _ :: earlier => due earlier

/-- All that has become of data, handed out or not. -/
def outputs : List Deed → List Surface
  | [] => []
  | took output _ :: earlier => output :: outputs earlier
  | _ :: earlier => outputs earlier

def Settles (output : Surface) : Deed → Prop
  | gave other => output.ref = other.ref
  | stopped => True
  | _ => False

/-- Is this the data that the promise was made for, and the result has not been handed out or
discarded since? -/
structure Origin (promise : Promise) (h later earlier : List Deed) : Prop where
  split : h = later ++ took promise.output promise.pts :: earlier
  asked_eq : promise.asked = asked? earlier
  unsettled : ∀ deed ∈ later, ¬deed.Settles promise.output

theorem Origin.cons {promise : Promise} {h later earlier : List Deed}
    (origin : Origin promise h later earlier) {deed : Deed}
    (unsettled : ¬deed.Settles promise.output) :
    Origin promise (deed :: h) (deed :: later) earlier :=
  ⟨congrArg (deed :: ·) origin.split, origin.asked_eq,
    List.forall_mem_cons.2 ⟨unsettled, origin.unsettled⟩⟩

theorem origin_of_mem_due {h : List Deed} {promise : Promise} (member : promise ∈ due h) :
    ∃ later earlier, Origin promise h later earlier := by
  induction h with
  | nil => cases member
  | cons deed h ih =>
    cases deed with
    | set name value =>
      obtain ⟨later, earlier, origin⟩ := ih member
      exact ⟨_, _, origin.cons id⟩
    | started format width height =>
      obtain ⟨later, earlier, origin⟩ := ih member
      exact ⟨_, _, origin.cons id⟩
    | took output pts =>
      rcases List.mem_append.1 member with before | new
      · obtain ⟨later, earlier, origin⟩ := ih before
        exact ⟨_, _, origin.cons id⟩
      · cases List.mem_singleton.1 new
        exact ⟨[], h, rfl, rfl, List.forall_mem_nil _⟩
    | gave output =>
      obtain ⟨before, other⟩ := List.mem_filter.1 member
      obtain ⟨later, earlier, origin⟩ := ih before
      have apart : promise.output.ref ≠ output.ref := of_decide_eq_true other
      exact ⟨_, _, origin.cons apart⟩
    | stopped => cases member

end Deed

structure Promise.Kept (promise : Promise) (m : Media) : Prop where
  pts_eq : m.pts promise.output = promise.pts
  asked_eq : ∃ width height : Int32,
    promise.asked = some (promise.output.format, width, height) ∧
      (promise.output.width.toNat : Int) = width.toInt ∧
      (promise.output.height.toNat : Int) = height.toInt

namespace Converter

/-- Can a caller have this data? A surface has to be there, and it is not the pending result,
which nobody but the converter holds. -/
def Receivable (c : Converter) (m : Media) : Data → Prop
  | .surface s => (m.surfaces.get? s.ref).isSome = true ∧
      ∀ output, c.pending = some output → s.ref ≠ output.ref
  | .buffer _ => True

/-- Is this what a new converter and the surfaces have come to? These calls have succeeded, the
last one first, and others may have failed. -/
inductive Comes : List Deed → Converter → Media → Prop where
  | created (memory : MemoryType) (m : Media) : Comes [] (.new memory) m
  | set {h : List Deed} {c d : Converter} {m : Media} {name : String} {value : Variant}
    (comes : Comes h c m) (done : c.setProperty name value = (.ok (), d)) :
    Comes (.set name value :: h) d m
  | setRefused {h : List Deed} {c d : Converter} {m : Media} {name : String} {value : Variant}
    {status : Status} (comes : Comes h c m)
    (refused : c.setProperty name value = (.error status, d)) : Comes h d m
  | init {h : List Deed} {c d : Converter} {m : Media} {format : SurfaceFormat}
    {width height : Int32} (comes : Comes h c m)
    (done : c.init format width height = (.ok (), d)) :
    Comes (.started format width height :: h) d m
  | initRefused {h : List Deed} {c d : Converter} {m : Media} {format : SurfaceFormat}
    {width height : Int32} {status : Status} (comes : Comes h c m)
    (refused : c.init format width height = (.error status, d)) : Comes h d m
  /-- What is pending afterwards is what has become of the surface. -/
  | submit {h : List Deed} {c d : Converter} {m n : Media} {s output : Surface}
    (comes : Comes h c m) (receivable : c.Receivable m (.surface s))
    (done : c.submit (.surface s) m = (.ok (), d, n)) (became : d.pending = some output) :
    Comes (.took output (m.pts s) :: h) d n
  | submitRefused {h : List Deed} {c d : Converter} {m n : Media} {data : Data}
    {failure : Failure Status} (comes : Comes h c m) (receivable : c.Receivable m data)
    (refused : c.submit data m = (.error failure, d, n)) : Comes h d n
  | query {h : List Deed} {c d : Converter} {m n : Media} {output : Surface}
    (comes : Comes h c m) (done : c.query m = (.ok (.surface output), d, n)) :
    Comes (.gave output :: h) d n
  | queryRefused {h : List Deed} {c d : Converter} {m n : Media} {status : Status}
    (comes : Comes h c m) (refused : c.query m = (.error status, d, n)) : Comes h d n
  | terminate {h : List Deed} {c d : Converter} {m n : Media} (comes : Comes h c m)
    (done : c.terminate m = (.ok (), d, n)) : Comes (.stopped :: h) d n
  /-- Others make surfaces, change them and give them up, but not the pending result. -/
  | elsewhere {h : List Deed} {c : Converter} {m n : Media} (comes : Comes h c m)
    (extends_ : m.Extends n)
    (untouched : ∀ output, c.pending = some output →
      n.surfaces.get? output.ref = m.surfaces.get? output.ref) : Comes h c n

inductive Owes (c : Converter) (m : Media) : List Promise → Prop where
  | nothing (idle : c.pending = none) : Owes c m []
  | one {promise : Promise} (pending : c.pending = some promise.output) (kept : promise.Kept m) :
    Owes c m [promise]

/-- Is a converter what these calls make of it? -/
structure Bears (h : List Deed) (c : Converter) (m : Media) : Prop where
  property_eq : ∀ name, c.property? name = Deed.property? name h
  input_eq : c.input = Deed.input? h
  terminated_eq : c.terminated = Deed.ended h
  owes : c.Owes m (Deed.due h)
  there : ∀ s ∈ Deed.outputs h, (m.surfaces.get? s.ref).isSome = true
  distinct : ((Deed.outputs h).map Surface.ref).Nodup
  size_pos : ∀ size, Deed.size? h = some size → 0 < size.1 ∧ 0 < size.2
  input_pos : ∀ format size, Deed.input? h = some (format, size) → 0 < size.1 ∧ 0 < size.2

variable {h : List Deed} {c d : Converter} {m n : Media} {data : Data}

/-! ### What is kept of a promise -/

theorem Owes.of_eq {due : List Promise} (owes : c.Owes m due) (pending : d.pending = c.pending)
    (same : ∀ output, c.pending = some output →
      n.surfaces.get? output.ref = m.surfaces.get? output.ref) : d.Owes n due := by
  cases owes with
  | nothing idle => exact .nothing (pending.trans idle)
  | one waits kept =>
    refine .one (pending.trans waits) ⟨?_, kept.asked_eq⟩
    rw [← kept.pts_eq, Media.pts, Media.pts, same _ waits]

theorem Owes.eq_one {due : List Promise} {s : Surface} (owes : c.Owes m due)
    (waits : c.pending = some s) :
    ∃ promise, due = [promise] ∧ promise.output = s ∧ promise.Kept m := by
  cases owes with
  | nothing idle => rw [idle] at waits; cases waits
  | @one promise pending kept =>
    exact ⟨promise, rfl, Option.some.inj (pending.symm.trans waits), kept⟩

theorem Owes.length_le {due : List Promise} (owes : c.Owes m due) : due.length ≤ 1 := by
  cases owes with
  | nothing => exact Nat.zero_le 1
  | one => exact Nat.le_refl 1

theorem Owes.head {promise : Promise} {later : List Promise} (owes : c.Owes m (promise :: later)) :
    c.pending = some promise.output ∧ promise.Kept m := by
  cases owes with
  | one waits kept => exact ⟨waits, kept⟩

theorem Owes.pending_eq_none_iff {due : List Promise} (owes : c.Owes m due) :
    c.pending = none ↔ due = [] := by
  cases owes with
  | nothing idle => exact iff_of_true idle rfl
  | one waits =>
    rw [waits]
    exact iff_of_false nofun nofun

/-! ### What a converter makes of data -/

theorem extends_accept {result : Attempt Status Surface}
    (accepted : c.accept data m = (result, n)) : m.Extends n := by
  cases accepts_of_accept accepted with
  | unready | full | unfit => exact .refl m
  | unfilled => exact (Media.extends_makeSurface ..).trans (Media.extends_release ..)
  | made =>
    exact ((Media.extends_makeSurface ..).trans (Media.extends_setPlanes ..)).trans
      (Media.extends_modifySurface ..)

theorem extends_discard (data : Data) (m : Media) : m.Extends (data.discard m) := by
  cases data with
  | surface s => exact Media.extends_release m s
  | buffer bytes => exact .refl m

theorem extends_submit {result : Attempt Status Unit}
    (submitted : c.submit data m = (result, d, n)) : m.Extends n := by
  unfold submit at submitted
  split at submitted
  case h_1 accepted =>
    cases submitted
    exact (extends_accept accepted).trans (extends_discard ..)
  case h_2 accepted =>
    cases submitted
    exact (extends_accept accepted).trans (extends_discard ..)

theorem submit_of_busy (busy : c.pending ≠ none) : (c.submit data m).2 = (c, data.discard m) := by
  generalize accepted : c.accept data m = r
  obtain ⟨result, n⟩ := r
  simp only [submit, accepted]
  cases accepts_of_accept accepted with
  | unready | full => rfl
  | unfit _ idle | unfilled _ idle | made _ idle => exact absurd idle busy

theorem submit_ok (submitted : c.submit data m = (.ok (), d, n)) :
    ∃ (s output : Surface) (k : Media), data = .surface s ∧
      c.accept (.surface s) m = (.ok output, k) ∧ d = { c with pending := some output } ∧
      n = k.release s := by
  unfold submit at submitted
  split at submitted
  case h_1 output k accepted =>
    cases submitted
    cases accepts_of_accept accepted with
    | made active idle => exact ⟨_, _, _, rfl, accepted, rfl, rfl⟩
  case h_2 => cases submitted

theorem made_new {s output : Surface} {format : SurfaceFormat} {width height : Int32}
    (there : (m.surfaces.get? s.ref).isSome = true)
    (active : c.input = some (format, width, height))
    (accepted : c.accept (.surface s) m = (.ok output, n)) :
    (∀ r, (m.surfaces.get? r).isSome = true → output.ref ≠ r) ∧
      output.format = c.outputFormat format ∧
      output.width = (c.outputSize width height).1.toUInt32 ∧
      output.height = (c.outputSize width height).2.toUInt32 ∧
      ∃ content crop, n.Presents output content crop (m.pts s) := by
  cases accepts_of_accept accepted with
  | @made _ _ _ _ zeros planes input =>
    cases active.symm.trans input
    refine ⟨fun r before => ?_, Media.format_makeSurface .., (Media.size_makeSurface ..).1,
      (Media.size_makeSurface ..).2, ?_⟩
    · obtain ⟨state, found⟩ := Option.isSome_iff_exists.1 before
      exact Media.makeSurface_ne_of_some found _ _ _ _ _
    · -- The time stamp is read when the result is there already.
      obtain ⟨state, found⟩ := Option.isSome_iff_exists.1 there
      have time : (c.blank m format width height zeros).2.pts s = m.pts s := by
        rw [Media.pts, Media.pts, blank, Media.get?_makeSurface_of_some found, found]
      rw [time]
      exact ⟨_, _, ((Media.presents_makeSurface ..).setPlanes _).setPts _⟩

/-! ### What is asked for -/

theorem Bears.outputFormat_eq (bears : Bears h c m) (format : SurfaceFormat) :
    c.outputFormat format = (Deed.layout? h).getD format := by
  unfold outputFormat Deed.layout? integerProperty?
  rw [bears.property_eq]
  cases (Deed.property? Property.outputFormat h).bind Variant.integer? with
  | none => rfl
  | some code =>
    simp only [Option.map_some, Option.filter_some]
    by_cases unknown : SurfaceFormat.ofCode code.toInt = .unknown
    · simp [unknown]
    · simp [unknown]

theorem Bears.outputSize_eq (bears : Bears h c m) (width height : Int32) :
    c.outputSize width height = (Deed.size? h).getD (width, height) := by
  unfold outputSize Deed.size?
  rw [bears.property_eq]

theorem Bears.asked_eq (bears : Bears h c m) {format : SurfaceFormat} {width height : Int32}
    (active : c.input = some (format, width, height)) :
    Deed.asked? h = some (c.outputFormat format, c.outputSize width height) := by
  rw [bears.outputFormat_eq, bears.outputSize_eq, Deed.asked?, ← bears.input_eq, active]
  rfl

theorem Bears.outputSize_pos (bears : Bears h c m) {format : SurfaceFormat} {width height : Int32}
    (active : c.input = some (format, width, height)) :
    0 < (c.outputSize width height).1 ∧ 0 < (c.outputSize width height).2 := by
  rw [bears.outputSize_eq]
  cases set : Deed.size? h with
  | none => exact bears.input_pos format (width, height) (bears.input_eq.symm.trans active)
  | some size => exact bears.size_pos size set

theorem toNat_toUInt32 {length : Int32} (positive : 0 < length) :
    (length.toUInt32.toNat : Int) = length.toInt := by
  have nonneg : 0 ≤ length.toInt := Int.le_of_lt (Int32.lt_iff_toInt_lt.1 positive)
  rw [Int32.toNat_toUInt32_of_le (Int32.le_iff_toInt_le.2 nonneg), Int32.toNatClampNeg,
    Int.toNat_of_nonneg nonneg]

theorem size_pos_of_accepts {value : Variant} {size : Int32 × Int32}
    (accepted : accepts Property.outputSize value = true) (has : value.size? = some size) :
    0 < size.1 ∧ 0 < size.2 := by
  unfold accepts at accepted
  rw [if_pos rfl, has] at accepted
  simpa only [Bool.and_eq_true, decide_eq_true_eq] using accepted

/-! ### Calls that fail -/

theorem setProperty_error {name : String} {value : Variant} {status : Status}
    (refused : c.setProperty name value = (.error status, d)) : d = c := by
  unfold setProperty at refused
  split at refused <;> cases refused
  rfl

theorem init_error {format : SurfaceFormat} {width height : Int32} {status : Status}
    (refused : c.init format width height = (.error status, d)) : d = c := by
  unfold init at refused
  split at refused
  · cases refused
    rfl
  split at refused
  · cases refused
    rfl
  split at refused <;> cases refused
  rfl

theorem submit_error {failure : Failure Status}
    (refused : c.submit data m = (.error failure, d, n)) : d = c := by
  unfold submit at refused
  split at refused <;> cases refused
  rfl

theorem query_error {status : Status} (refused : c.query m = (.error status, d, n)) :
    d = c ∧ n = m := by
  unfold query at refused
  split at refused <;> cases refused
  exact ⟨rfl, rfl⟩

/-! ### One call -/

theorem Bears.created (memory : MemoryType) (m : Media) : Bears [] (.new memory) m where
  property_eq _ := rfl
  input_eq := rfl
  terminated_eq := rfl
  owes := .nothing rfl
  there _ member := absurd member List.not_mem_nil
  distinct := List.nodup_nil
  size_pos _ has := by cases has
  input_pos _ _ has := by cases has

theorem Bears.set (bears : Bears h c m) {name : String} {value : Variant}
    (done : c.setProperty name value = (.ok (), d)) : Bears (.set name value :: h) d m := by
  have accepted : (c.setProperty name value).1 = .ok () := congrArg Prod.fst done
  obtain ⟨properties, same⟩ := setProperty_eq c name value
  have changed : (c.setProperty name value).2 = d := congrArg Prod.snd done
  have fields := changed.symm.trans same
  refine ⟨fun other => ?_, ?_, ?_, ?_, bears.there, bears.distinct, fun size has => ?_,
    bears.input_pos⟩
  · rw [Deed.property?, ← changed]
    split
    case isTrue named => rw [named, property?_setProperty accepted]
    case isFalse named => rw [property?_setProperty_of_ne c value named, bears.property_eq]
  · rw [fields]
    exact bears.input_eq
  · rw [fields]
    exact bears.terminated_eq
  · exact bears.owes.of_eq (by rw [fields]) fun _ _ => rfl
  · unfold Deed.size? at has
    rw [Deed.property?] at has
    split at has
    case isTrue named =>
      subst named
      refine size_pos_of_accepts ?_ has
      by_contra refused
      rw [setProperty, if_neg refused] at accepted
      cases accepted
    case isFalse => exact bears.size_pos size has

theorem Bears.init (bears : Bears h c m) {format : SurfaceFormat} {width height : Int32}
    (done : c.init format width height = (.ok (), d)) :
    Bears (.started format width height :: h) d m := by
  obtain rfl := init_ok done
  refine ⟨bears.property_eq, rfl, rfl, bears.owes.of_eq rfl fun _ _ => rfl, bears.there,
    bears.distinct, bears.size_pos, fun _ _ has => ?_⟩
  cases has
  exact init_pos done

theorem Bears.submit (bears : Bears h c m) {s output : Surface}
    (receivable : c.Receivable m (.surface s))
    (done : c.submit (.surface s) m = (.ok (), d, n)) (became : d.pending = some output) :
    Bears (.took output (m.pts s) :: h) d n := by
  have extended := extends_submit done
  obtain ⟨_, made, k, same, accepted, rfl, rfl⟩ := submit_ok done
  cases same
  cases became
  obtain ⟨⟨format, width, height⟩, active⟩ : ∃ input, c.input = some input := by
    cases accepts_of_accept accepted with
    | made active => exact ⟨_, active⟩
  obtain ⟨new, format_eq, width_eq, height_eq, content, crop, presents⟩ :=
    made_new receivable.1 active accepted
  have after := presents.release (new s.ref receivable.1).symm
  obtain ⟨widthPos, heightPos⟩ := bears.outputSize_pos active
  refine ⟨bears.property_eq, bears.input_eq, bears.terminated_eq, ?_, ?_, ?_, bears.size_pos,
    bears.input_pos⟩
  · rw [Deed.due, bears.owes.pending_eq_none_iff.1 (idle_of_accept accepted), List.nil_append]
    refine .one rfl ⟨after.pts_eq, (c.outputSize width height).1, (c.outputSize width height).2,
      ?_, ?_, ?_⟩
    · rw [bears.asked_eq active, format_eq]
    · rw [width_eq, toNat_toUInt32 widthPos]
    · rw [height_eq, toNat_toUInt32 heightPos]
  · intro t member
    rcases List.mem_cons.1 member with rfl | member
    · obtain ⟨_, found, -⟩ := after.there
      exact Option.isSome_of_eq_some found
    · exact extended.there t.ref (bears.there t member)
  · refine List.nodup_cons.2 ⟨fun member => ?_, bears.distinct⟩
    obtain ⟨t, taken, same⟩ := List.mem_map.1 member
    exact new t.ref (bears.there t taken) same.symm

theorem Bears.submitRefused (bears : Bears h c m) (receivable : c.Receivable m data)
    {failure : Failure Status} (refused : c.submit data m = (.error failure, d, n)) :
    Bears h d n := by
  have extended := extends_submit refused
  obtain rfl := submit_error refused
  refine ⟨bears.property_eq, bears.input_eq, bears.terminated_eq, ?_,
    fun t member => extended.there t.ref (bears.there t member), bears.distinct, bears.size_pos,
    bears.input_pos⟩
  refine bears.owes.of_eq rfl fun output waits => ?_
  -- The data is given up, and it is not what waits.
  have given : (d.submit data m).2 = (d, data.discard m) :=
    submit_of_busy (by rw [waits]; exact Option.some_ne_none output)
  rw [refused] at given
  obtain rfl : n = data.discard m := congrArg Prod.snd given
  cases data with
  | surface s => exact Media.get?_release_of_ne (receivable.2 output waits) m
  | buffer bytes => rfl

theorem Bears.query (bears : Bears h c m) {output : Surface}
    (done : c.query m = (.ok (.surface output), d, n)) : Bears (.gave output :: h) d n := by
  unfold Converter.query at done
  split at done
  case h_2 => cases done
  case h_1 s waits =>
    cases done
    have nothing : Deed.due (.gave output :: h) = [] := by
      obtain ⟨promise, due_eq, rfl, -⟩ := bears.owes.eq_one waits
      rw [Deed.due, due_eq, List.filter_cons_of_neg (by simp), List.filter_nil]
    refine ⟨bears.property_eq, bears.input_eq, bears.terminated_eq, ?_, bears.there,
      bears.distinct, bears.size_pos, bears.input_pos⟩
    rw [nothing]
    exact .nothing rfl

theorem Bears.terminate (bears : Bears h c m) (done : c.terminate m = (.ok (), d, n)) :
    Bears (.stopped :: h) d n := by
  cases done
  refine ⟨bears.property_eq, rfl, rfl, .nothing rfl, fun t member => ?_, bears.distinct,
    bears.size_pos, fun _ _ has => by cases has⟩
  have extended : m.Extends (c.discard m) := by
    unfold Converter.discard
    split
    · exact Media.extends_release m _
    · exact .refl m
  exact extended.there t.ref (bears.there t member)

theorem Bears.elsewhere (bears : Bears h c m) (extended : m.Extends n)
    (untouched : ∀ output, c.pending = some output →
      n.surfaces.get? output.ref = m.surfaces.get? output.ref) : Bears h c n :=
  ⟨bears.property_eq, bears.input_eq, bears.terminated_eq, bears.owes.of_eq rfl untouched,
    fun t member => extended.there t.ref (bears.there t member), bears.distinct, bears.size_pos,
    bears.input_pos⟩

/-! ### Any number of calls -/

theorem Comes.bears (comes : Comes h c m) : Bears h c m := by
  induction comes with
  | created memory m => exact .created memory m
  | set _ done ih => exact ih.set done
  | setRefused _ refused ih =>
    obtain rfl := setProperty_error refused
    exact ih
  | init _ done ih => exact ih.init done
  | initRefused _ refused ih =>
    obtain rfl := init_error refused
    exact ih
  | submit _ receivable done became ih => exact ih.submit receivable done became
  | submitRefused _ receivable refused ih => exact ih.submitRefused receivable refused
  | query _ done ih => exact ih.query done
  | queryRefused _ refused ih =>
    obtain ⟨rfl, rfl⟩ := query_error refused
    exact ih
  | terminate _ done ih => exact ih.terminate done
  | elsewhere _ extended untouched ih => exact ih.elsewhere extended untouched

structure Answers (h : List Deed) (c : Converter) (m : Media) : Prop where
  single : (Deed.due h).length ≤ 1
  /-- No surface is the result of two surfaces. -/
  distinct : ((Deed.outputs h).map Surface.ref).Nodup
  /-- Results are handed out in the order in which they fell due. -/
  due : ∀ promise later, Deed.due h = promise :: later →
    (c.query m).1 = .ok (.surface promise.output) ∧ promise.Kept m ∧
      ∃ after before, Deed.Origin promise h after before
  nothing : Deed.due h = [] →
    (c.query m).1 = .error (if Deed.ended h then .endOfStream else .repeatLater)
  notInitialized_iff : ∀ data,
    (c.submit data m).1 = .error (.refused .notInitialized) ↔ Deed.input? h = none
  inputFull_iff : ∀ data, Deed.input? h ≠ none →
    ((c.submit data m).1 = .error (.refused .inputFull) ↔ Deed.due h ≠ [])
  /-- What is taken in is a surface, and something has become of it. -/
  became : ∀ data d n, c.submit data m = (.ok (), d, n) →
    ∃ s output, data = .surface s ∧ d.pending = some output
  terminates : (c.terminate m).1 = .ok ()
  setProperty_error : ∀ name value status d, c.setProperty name value = (.error status, d) → d = c
  init_error : ∀ format width height status d,
    c.init format width height = (.error status, d) → d = c
  submit_error : ∀ data failure d n, c.submit data m = (.error failure, d, n) → d = c
  query_error : ∀ status d n, c.query m = (.error status, d, n) → d = c

/-- Whatever is asked of a converter, and in whatever order: it hands out what it owes, and it
refuses only what the calls before give reason to refuse. -/
theorem keeps_promises (comes : Comes h c m) : Answers h c m := by
  have bears := comes.bears
  refine ⟨bears.owes.length_le, bears.distinct, fun promise later due => ?_, fun none_due => ?_,
    fun data => ?_, fun data active => ?_, fun data d n submitted => ?_, rfl,
    fun _ _ _ _ => setProperty_error, fun _ _ _ _ _ => init_error,
    fun _ _ _ _ => submit_error, fun _ _ _ refused => (query_error refused).1⟩
  · obtain ⟨waits, kept⟩ := (due ▸ bears.owes).head
    refine ⟨?_, kept, Deed.origin_of_mem_due (due ▸ List.mem_cons_self)⟩
    simp only [query, waits]
  · have idle := bears.owes.pending_eq_none_iff.2 none_due
    simp only [query, idle, bears.terminated_eq]
  · rw [submit_error_iff, accept_eq_notInitialized_iff, bears.input_eq]
  · rw [submit_error_iff, accept_eq_inputFull_iff, bears.input_eq, and_iff_right active]
    exact not_congr bears.owes.pending_eq_none_iff
  · obtain ⟨s, output, _, rfl, -, rfl, -⟩ := submit_ok submitted
    exact ⟨s, output, rfl, rfl⟩

def nv12Value : Variant :=
  .integer (Int64.ofInt SurfaceFormat.nv12.code)

def halving : Converter where
  memory := .host
  properties := [(Property.outputSize, .size 8 4), (Property.outputFormat, nv12Value)]
  input := some (.nv12, 16, 8)
  pending := none
  terminated := false

theorem ready_halving : halving.Ready .host .nv12 .nv12 ⟨8, 4⟩ := by
  refine ⟨rfl, ⟨16, 8, rfl⟩, rfl, fun input => ?_, fun width height => rfl⟩
  have set : halving.integerProperty? Property.outputFormat
      = some (Int64.ofInt SurfaceFormat.nv12.code) := by
    simp [integerProperty?, property?, halving, nv12Value, Property.outputFormat,
      Property.outputSize, List.lookup_cons, Variant.integer?]
  simp only [outputFormat, set, ofCode_toInt_code]
  rfl

theorem comes_halving (m : Media) :
    Comes [.started .nv12 16 8, .set Property.outputSize (.size 8 4),
      .set Property.outputFormat nv12Value] halving m := by
  have first : (new .host).setProperty Property.outputFormat nv12Value
      = (.ok (), { new .host with properties := [(Property.outputFormat, nv12Value)] }) := by
    simp [setProperty, accepts, Property.outputFormat, Property.outputSize, new]
  have second : { new .host with
        properties := [(Property.outputFormat, nv12Value)] }.setProperty Property.outputSize
          (.size 8 4) = (.ok (), { halving with input := none }) := by
    simp [setProperty, accepts, Property.outputFormat, Property.outputSize, new, halving,
      Variant.size?]
  exact .init (.set (.set (.created .host m) first) second) rfl

theorem keeps_promises_halving : ∃ (h : List Deed) (c : Converter) (m : Media) (output : Surface),
    Comes h c m ∧ Answers h c m ∧ Deed.due h = [⟨output, 42, some (.nv12, 8, 4)⟩] ∧
      (c.query m).1 = .ok (.surface output) ∧ m.pts output = 42 := by
  obtain ⟨s, m, planes, presents, laid⟩ : ∃ (s : Surface) (m : Media) (planes : List Plane),
      m.Presents s ⟨.host, .nv12, 16, 8, planes⟩ (Surface.wholeRect 16 8) 42 ∧
        SurfaceFormat.nv12.Laid 16 8 planes :=
    ⟨_, _, _, (Media.presents_makeSurface .empty .host .nv12 16 8 _).setPts 42,
      .of_allocation (w := 16) (h := 8) rfl⟩
  obtain ⟨state, found, shown, -⟩ := presents.there
  obtain ⟨output, n, converted, accepted, -⟩ := accept_inside ready_halving (by decide) (by decide)
    (by decide) (congrArg SurfaceContent.format presents.content_eq) found shown presents.has laid
    (by decide) (by decide) (by decide) (by decide) (by decide) (by decide)
  have submitted : halving.submit (.surface s) m
      = (.ok (), { halving with pending := some output }, n.release s) := by
    simp only [submit, accepted]
    rfl
  have receivable : halving.Receivable m (.surface s) :=
    ⟨Option.isSome_of_eq_some found, fun output waits =>
      absurd waits.symm (Option.some_ne_none output)⟩
  have comes := (comes_halving m).submit receivable submitted rfl
  have answers := keeps_promises comes
  obtain ⟨handed, kept, -⟩ := answers.due _ [] rfl
  refine ⟨_, _, _, output, comes, answers, ?_, handed, kept.pts_eq.trans presents.pts_eq⟩
  have asked := (comes_halving m).bears.asked_eq rfl
  rw [ready_halving.outputFormat_eq, ready_halving.outputSize_eq] at asked
  rw [Deed.due, presents.pts_eq, asked]
  rfl

end Converter

end VideoScaler
