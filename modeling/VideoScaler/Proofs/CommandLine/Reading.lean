import VideoScaler.CommandLine.RawVideo
import VideoScaler.Proofs.Frame.Packing

/-! Reading raw video ends, and what is read are the pieces of its bytes.

Nothing in the reading itself asks whether frames have bytes. Where they have, every frame read
brings the end closer: frame `i` is made of the piece of bytes in place `i`, and the last piece is
left out when it is not whole. Where a frame has more bytes than an array can have, reading breaks
off before the first frame, however few bytes there are.
-/

set_option autoImplicit false

namespace VideoScaler.CommandLine.RawVideo

/-- What is still to come, if it ends. -/
inductive Reads : RawVideo → List Frame → Prop where
  | done {v : RawVideo} (ended : v.next? = .ok none) : Reads v []
  | next {v rest : RawVideo} {f : Frame} {fs : List Frame} (shown : v.next? = .ok (some (f, rest)))
    (reads : Reads rest fs) : Reads v (f :: fs)

theorem readAll_of_error {v : RawVideo} {failure : Failure Error} (failed : v.next? = .error failure)
    (earlier : List Frame) : v.readAll earlier = .error failure := by
  have one : readOne (v, earlier) = .inr (.error failure) := by
    rw [readOne, failed]
  rw [readAll, repeatM_eq_of_monadTail, repeatM.body, one]
  rfl

theorem readAll_of_none {v : RawVideo} (ended : v.next? = .ok none) (earlier : List Frame) :
    v.readAll earlier = .ok earlier.reverse := by
  have one : readOne (v, earlier) = .inr (.ok earlier.reverse) := by
    rw [readOne, ended]
  rw [readAll, repeatM_eq_of_monadTail, repeatM.body, one]
  rfl

theorem readAll_of_some {v rest : RawVideo} {f : Frame} (shown : v.next? = .ok (some (f, rest)))
    (earlier : List Frame) : v.readAll earlier = rest.readAll (f :: earlier) := by
  have one : readOne (v, earlier) = .inl (rest, f :: earlier) := by
    rw [readOne, shown]
  rw [readAll, repeatM_eq_of_monadTail, repeatM.body, one]
  rfl

theorem Reads.readAll_eq {v : RawVideo} {fs : List Frame} (reads : v.Reads fs)
    (earlier : List Frame) : v.readAll earlier = .ok (earlier.reverse ++ fs) := by
  induction reads generalizing earlier with
  | done ended => rw [readAll_of_none ended, List.append_nil]
  | next shown _ ih =>
    rw [readAll_of_some shown, ih, List.reverse_cons, List.append_assoc, List.singleton_append]

def count (v : RawVideo) : Nat :=
  match v.wanted with
  | none => v.data.size / v.frameBytes
  | some n => min (v.data.size / v.frameBytes) n

def piece (v : RawVideo) (i : Nat) : Bytes :=
  v.data.extract (i * v.frameBytes) (i * v.frameBytes + v.frameBytes)

/-- The frame made of a piece; its number is its time. -/
def frame? (v : RawVideo) (i : Nat) : Option Frame :=
  (Frame.ofPacked? v.format v.size.width v.size.height (v.piece i)).map fun f =>
    { f with pts := Int64.ofNat i }

def skip (v : RawVideo) (i : Nat) : RawVideo :=
  { v with
    position := i * v.frameBytes
    time := Int64.ofNat i
    wanted := v.wanted.map fun n => n - i }

/-- Can there be an array for a frame, if one is wanted? -/
def HasRoom (v : RawVideo) : Prop :=
  v.wanted = some 0 ∨ Bytes.Fit [v.frameBytes]

instance (v : RawVideo) : Decidable v.HasRoom :=
  inferInstanceAs (Decidable (_ ∨ _))

variable {v : RawVideo} {i : Nat}

theorem next?_tooLarge (large : ¬v.HasRoom) : v.next? = .error (.broken .tooLarge) := by
  obtain ⟨wanted, large⟩ := not_or.1 large
  unfold next?
  rw [if_neg wanted, Attempt.room_of_not_fit large]
  rfl

@[simp] theorem frameBytes_skip : (v.skip i).frameBytes = v.frameBytes := rfl

@[simp] theorem data_skip : (v.skip i).data = v.data := rfl

@[simp] theorem position_skip : (v.skip i).position = i * v.frameBytes := rfl

@[simp] theorem wanted_skip : (v.skip i).wanted = v.wanted.map fun n => n - i := rfl

section
variable (filled : 0 < v.frameBytes)
include filled

theorem lt_count_iff :
    i < v.count ↔ (v.skip i).wanted ≠ some 0 ∧ i * v.frameBytes + v.frameBytes ≤ v.data.size := by
  have whole : i < v.data.size / v.frameBytes ↔
      i * v.frameBytes + v.frameBytes ≤ v.data.size := by
    rw [← Nat.succ_mul, ← Nat.le_div_iff_mul_le filled]
    rfl
  unfold count
  cases limit : v.wanted with
  | none => simp [limit, whole]
  | some n =>
    simp only [Nat.lt_min, whole, wanted_skip, limit, Option.map_some, ne_eq, Option.some.injEq]
    omega

theorem next?_eq_none (room : v.HasRoom) (last : v.count ≤ i) : (v.skip i).next? = .ok none := by
  have ended := mt (lt_count_iff filled).2 (Nat.not_lt.2 last)
  unfold next?
  by_cases limit : (v.skip i).wanted = some 0
  · rw [if_pos limit]
    rfl
  · have short : (v.skip i).data.size < (v.skip i).position + (v.skip i).frameBytes :=
      Nat.not_le.1 fun whole => ended ⟨limit, whole⟩
    have fit : Bytes.Fit [(v.skip i).frameBytes] :=
      room.resolve_left fun none => limit (by rw [wanted_skip, none, Option.map_some, Nat.zero_sub])
    rw [if_neg limit, Attempt.room_of_fit fit, if_pos short]
    rfl

theorem size_piece (inside : i < v.count) : (v.piece i).size = v.frameBytes := by
  have whole := ((lt_count_iff filled).1 inside).2
  rw [piece, Array.size_extract]
  omega

theorem frame?_eq_some (host : v.format.isHardware = false) (inside : i < v.count) :
    ∃ f, v.frame? i = some f ∧ f.format = v.format ∧ f.width = v.size.width ∧
      f.height = v.size.height ∧ f.payload = none ∧ f.backing = none ∧
      List.Forall₂ FramePlane.Tight (f.format.shapes f.width.toNat f.height.toNat) f.planes := by
  have enough := Nat.le_of_eq (size_piece filled inside).symm
  refine ⟨_, by rw [frame?, Frame.ofPacked?_eq_some host enough, Option.map_some], rfl, rfl, rfl,
    rfl, rfl, ?_⟩
  exact Frame.tight_cutPlanes (by rwa [Nat.zero_add])

theorem next?_skip (room : v.HasRoom) (inside : i < v.count) :
    (v.skip i).next? = .ok ((v.frame? i).map fun f => (f, v.skip (i + 1))) := by
  obtain ⟨wanted, whole⟩ := (lt_count_iff filled).1 inside
  have fit : Bytes.Fit [(v.skip i).frameBytes] :=
    room.resolve_left fun none => wanted (by rw [wanted_skip, none, Option.map_some, Nat.zero_sub])
  have more : ¬(v.skip i).data.size < (v.skip i).position + (v.skip i).frameBytes :=
    Nat.not_lt.2 whole
  have behind : (v.skip i).position + (v.skip i).frameBytes = (i + 1) * v.frameBytes :=
    (Nat.succ_mul i v.frameBytes).symm
  have later : Int64.ofNat i + 1 = Int64.ofNat (i + 1) := (Int64.ofNat_add i 1).symm
  unfold next?
  rw [if_neg wanted, Attempt.room_of_fit fit, if_neg more, frame?, Option.map_map]
  refine congrArg (fun g => Except.ok ((Frame.ofPacked? v.format v.size.width v.size.height
    (v.piece i)).map g)) (funext fun f => ?_)
  have fewer : ((v.skip i).wanted.map fun n => n - 1) = (v.skip (i + 1)).wanted := by
    simp only [wanted_skip, Option.map_map, Function.comp_def, Nat.sub_sub]
  simp only [Function.comp_apply, behind, fewer]
  rw [show (v.skip i).time + 1 = (v.skip (i + 1)).time from later]
  rfl

theorem reads_skip (room : v.HasRoom) (host : v.format.isHardware = false) (left : Nat) (rest : i + left = v.count) :
    ∃ frames, (v.skip i).Reads frames ∧
      (List.range' i left).map v.frame? = frames.map some := by
  induction left generalizing i with
  | zero => exact ⟨[], .done (next?_eq_none filled room (Nat.le_of_eq rest.symm)), rfl⟩
  | succ left ih =>
    have inside : i < v.count := by omega
    obtain ⟨f, made, -⟩ := frame?_eq_some filled host inside
    obtain ⟨frames, reads, shown⟩ := ih (i := i + 1) (by omega)
    refine ⟨f :: frames, .next ?_ reads, ?_⟩
    · rw [next?_skip filled room inside, made, Option.map_some]
    · rw [List.range'_succ, List.map_cons, List.map_cons, made, shown]

end

/-- Video whose frames have bytes, and no more than an array can have, is read to its end. -/
theorem reads_of_start (filled : 0 < v.frameBytes) (room : v.HasRoom) (host : v.format.isHardware = false)
    (start : v.position = 0) (first : v.time = 0) :
    ∃ frames, v.Reads frames ∧ (List.range v.count).map v.frame? = frames.map some := by
  have same : v.skip 0 = v := by
    obtain ⟨format, size, data, position, time, wanted⟩ := v
    have limit : (wanted.map fun n => n - 0) = wanted := Option.map_id'
    simp only at start first
    rw [start, first, skip, Nat.zero_mul, limit]
    rfl
  obtain ⟨frames, reads, shown⟩ := reads_skip filled room host v.count (Nat.zero_add _)
  rw [same] at reads
  rw [← List.range_eq_range'] at shown
  exact ⟨frames, reads, shown⟩

end VideoScaler.CommandLine.RawVideo
