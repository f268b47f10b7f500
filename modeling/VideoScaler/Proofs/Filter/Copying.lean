import VideoScaler.Proofs.Filter.Samples

/-! Copying the samples of a frame row by row.

A new surface has planes of zeros, and the rows of a frame are written into them one after the
other. Places and sizes are numbers of 64 bits here: one that is greater is out of range, as a row
is that is not in the data. As the size of a plane is checked before its first row, nothing is out
of range in the end, and the rows make the plane that is built at once.
-/

set_option autoImplicit false

namespace VideoScaler

def Number.word? (n : Nat) : Option Nat :=
  if n < UInt64.size then some n else none

theorem Number.word?_eq {n : Nat} (small : n < UInt64.size) : word? n = some n :=
  if_pos small

def FramePlane.wordRow? (p : FramePlane) (y count : Nat) : Option Bytes := do
  let start ← Number.word? (y * p.linesize)
  let _ ← Number.word? (start + count)
  p.row? y count

theorem FramePlane.wordRow?_eq_row? {p : FramePlane} {y count : Nat}
    (small : y * p.linesize + count < UInt64.size) : p.wordRow? y count = p.row? y count := by
  have start : Number.word? (y * p.linesize) = some (y * p.linesize) :=
    Number.word?_eq (by omega)
  simp only [wordRow?, start, Number.word?_eq small, Option.bind_eq_bind, Option.bind_some]

/-- Write bytes over the start of a row, which has to be there and to have room for them. -/
def Plane.writeRow? (p : Plane) (y : Nat) (bytes : Bytes) : Option Plane := do
  let start ← Number.word? (y * p.pitch)
  let stop ← Number.word? (start + p.rowBytes)
  if stop ≤ p.data.size ∧ bytes.size ≤ p.rowBytes then
    some { p with
      data := Array.ofFn fun i : Fin p.data.size =>
        if start ≤ i.val ∧ i.val < start + bytes.size then bytes.getD (i.val - start) 0
        else p.data[i] }
  else none

namespace Bridge

def copyRows? (source : FramePlane) (count : Nat) (p : Plane) : Nat → Option Plane
  | 0 => some p
  | y + 1 => do
    let p ← copyRows? source count p y
    let row ← source.wordRow? y count
    p.writeRow? y row

def copyPlane (format : PixelFormat) (i : Nat) (shape : Format.Shape) (source : FramePlane)
    (p : Plane) : Attempt FormatError Plane := do
  let last ← Attempt.ofOption (Number.word? (source.linesize * (shape.rows - 1)))
  let needed ← Attempt.ofOption (Number.word? (last + shape.rowBytes))
  if source.linesize < shape.rowBytes ∨ source.data.size < needed then
    .error (.refused (.planeTooSmall format i))
  else
    Attempt.ofOption
      (copyRows? source (min shape.rowBytes p.rowBytes) p (min shape.rows p.rows))

def copyPlanes (format : PixelFormat) : Nat → List Format.Shape → List FramePlane → List Plane →
    Attempt FormatError (List Plane)
  | _, [], _, planes => .ok planes
  | i, shape :: shapes, source :: sources, p :: planes => do
    let first ← copyPlane format i shape source p
    return first :: (← copyPlanes format (i + 1) shapes sources planes)
  | _, _ :: _, _, _ => .error (.broken .outOfRange)

def copyFrame (frame : Frame) (shapes : List Format.Shape) (planes : List Plane) :
    Attempt FormatError (List Plane) :=
  if frame.planes.length < shapes.length then
    .error (.refused (.planeCount frame.format frame.planes.length shapes.length))
  else
    copyPlanes frame.format 0 shapes frame.planes planes

end Bridge

namespace PixelFormat

variable {f : PixelFormat} {width height : Nat}

theorem shape_le (columns : width ≤ 2147483647) (rows : height ≤ 2147483647) :
    ∀ shape ∈ f.shapes width height, shape.rowBytes ≤ 8589934592 ∧ shape.rows ≤ 2147483647 := by
  cases f <;> simp [shapes, Format.half] <;> omega

theorem pitchFor_mul_rows_lt (columns : width ≤ 2147483647) (rows : height ≤ 2147483647) :
    ∀ shape ∈ f.shapes width height, Plane.pitchFor shape.rowBytes * shape.rows < UInt64.size := by
  intro shape member
  obtain ⟨rowBytes_le, rows_le⟩ := shape_le columns rows shape member
  -- The longest row is a multiple of 64 bytes, so the distance of rows is no longer.
  have pitch_le : Plane.pitchFor shape.rowBytes ≤ 8589934592 := by
    unfold Plane.pitchFor
    omega
  calc
    Plane.pitchFor shape.rowBytes * shape.rows
      ≤ 8589934592 * 2147483647 := Nat.mul_le_mul pitch_le rows_le
    _ < UInt64.size := by decide

end PixelFormat

namespace Plane

variable {shape : Format.Shape} {y : Nat}

theorem build_ext {byte other : Nat → Nat → UInt8}
    (data_eq : (build shape byte).data = (build shape other).data) :
    build shape byte = build shape other :=
  congrArg (fun data => (⟨data, pitchFor shape.rowBytes, shape.rowBytes, shape.rows⟩ : Plane))
    data_eq

theorem build_congr {byte other : Nat → Nat → UInt8}
    (same : ∀ y < shape.rows, ∀ x < shape.rowBytes, byte y x = other y x) :
    build shape byte = build shape other := by
  refine build_ext (congrArg Array.ofFn (funext fun i => ?_))
  split
  · exact same _ (Nat.div_lt_of_lt_mul i.isLt) _ ‹_›
  · rfl

theorem zero_eq_build (shape : Format.Shape) : zero shape = build shape fun _ _ => 0 := by
  have data_eq : (zero shape).data = (build shape fun _ _ => 0).data := by
    apply Array.ext <;> simp [zero, build, bytesFor]
  exact congrArg (fun data => (⟨data, pitchFor shape.rowBytes, shape.rowBytes, shape.rows⟩ : Plane))
    data_eq

theorem inRow_iff {pitch length i : Nat} (narrow : length ≤ pitch) :
    y * pitch ≤ i ∧ i < y * pitch + length ↔ i / pitch = y ∧ i % pitch < length := by
  have place := Nat.div_add_mod' i pitch
  constructor
  · rintro ⟨above, below⟩
    have row : i / pitch = y := Nat.div_eq_of_lt_le above (by rw [Nat.succ_mul]; omega)
    rw [row] at place
    exact ⟨row, by omega⟩
  · rintro ⟨rfl, column⟩
    omega

theorem writeRow?_build (byte : Nat → Nat → UInt8) {bytes : Bytes} (hy : y < shape.rows)
    (small : pitchFor shape.rowBytes * shape.rows < UInt64.size)
    (size_eq : bytes.size = shape.rowBytes) :
    (build shape byte).writeRow? y bytes =
      some (build shape fun r x => if r = y then bytes.getD x 0 else byte r x) := by
  let pitch := pitchFor shape.rowBytes
  have narrow : shape.rowBytes ≤ pitch := rowBytes_le_pitchFor shape.rowBytes
  have room : y * pitch + shape.rowBytes ≤ pitch * shape.rows := row_end_le hy narrow
  have stop_lt : y * pitch + shape.rowBytes < UInt64.size := Nat.lt_of_le_of_lt room small
  have start := Number.word?_eq (Nat.lt_of_le_of_lt (Nat.le_add_right _ _) stop_lt)
  have stop := Number.word?_eq stop_lt
  have fits : y * pitch + shape.rowBytes ≤ (build shape byte).data.size ∧
      bytes.size ≤ shape.rowBytes := ⟨by simpa [build] using room, Nat.le_of_eq size_eq⟩
  show (Number.word? (y * pitch) >>= fun start => Number.word? (start + shape.rowBytes) >>=
    fun stop => if stop ≤ (build shape byte).data.size ∧ bytes.size ≤ shape.rowBytes then _
      else none) = _
  rw [start]
  show (Number.word? (y * pitch + shape.rowBytes) >>= fun stop => _) = _
  rw [stop]
  show (if _ then _ else none) = _
  rw [if_pos fits, Option.some.injEq]
  -- A byte is in the row that is written, or it is none of the row's meaningful bytes.
  refine congrArg (fun data => (⟨data, pitch, shape.rowBytes, shape.rows⟩ : Plane)) ?_
  apply Array.ext
  · simp [build]
  intro i hi _
  have inside := @inRow_iff y pitch shape.rowBytes i narrow
  simp only [build, Array.getElem_ofFn, Fin.getElem_fin, size_eq]
  by_cases written : y * pitch ≤ i ∧ i < y * pitch + shape.rowBytes
  · obtain ⟨row, column⟩ := inside.1 written
    have place := Nat.div_add_mod' i pitch
    rw [row] at place
    have column_eq : i - y * pitch = i % pitch := by omega
    rw [if_pos written, if_pos column, if_pos row, column_eq]
  · rw [if_neg written]
    by_cases column : i % pitch < shape.rowBytes
    · have row : i / pitch ≠ y := fun row => written (inside.2 ⟨row, column⟩)
      rw [if_pos column, if_pos column, if_neg row]
    · rw [if_neg column, if_neg column]

end Plane

namespace Bridge

variable {shape : Format.Shape} {source : FramePlane} {y : Nat}

theorem getD_extract {data : Bytes} {start count x : Nat} (room : start + count ≤ data.size)
    (hx : x < count) : (data.extract start (start + count)).getD x 0 = data.getD (start + x) 0 := by
  have inside : x < min (start + count) data.size - start := by omega
  rw [Array.getD_eq_getD_getElem?, Array.getElem?_extract, if_pos inside,
    Array.getD_eq_getD_getElem?]

section
variable (large : holds source shape = true)
  (words : source.linesize * shape.rows + shape.rowBytes < UInt64.size)
include large

theorem row_end_le_size (hy : y < shape.rows) :
    y * source.linesize + shape.rowBytes ≤ source.data.size := by
  have last := (holds_iff.1 large).2
  have below : y * source.linesize ≤ source.linesize * (shape.rows - 1) := by
    rw [Nat.mul_comm]
    exact Nat.mul_le_mul_left _ (Nat.le_sub_one_of_lt hy)
  omega

include words

theorem wordRow?_eq (hy : y < shape.rows) :
    source.wordRow? y shape.rowBytes = some (source.data.extract (y * source.linesize)
      (y * source.linesize + shape.rowBytes)) := by
  have room := row_end_le_size large hy
  have stop_lt : y * source.linesize + shape.rowBytes < UInt64.size := by
    have before : y * source.linesize ≤ source.linesize * shape.rows := by
      rw [Nat.mul_comm]
      exact Nat.mul_le_mul_left _ (Nat.le_of_lt hy)
    omega
  rw [FramePlane.wordRow?_eq_row? stop_lt]
  exact if_pos room

theorem copyRows?_zero (small : Plane.pitchFor shape.rowBytes * shape.rows < UInt64.size)
    {count : Nat} (within : count ≤ shape.rows) :
    copyRows? source shape.rowBytes (Plane.zero shape) count =
      some (Plane.build shape fun y x =>
        if y < count then source.data.getD (y * source.linesize + x) 0 else 0) := by
  induction count with
  | zero => simp [copyRows?, Plane.zero_eq_build]
  | succ y ih =>
    have hy : y < shape.rows := within
    have room := row_end_le_size large hy
    have size_eq : (source.data.extract (y * source.linesize)
        (y * source.linesize + shape.rowBytes)).size = shape.rowBytes := by
      rw [Array.size_extract]
      omega
    simp only [copyRows?, ih (Nat.le_of_lt hy), wordRow?_eq large words hy, Option.bind_eq_bind,
      Option.bind_some, Plane.writeRow?_build _ hy small size_eq, Option.some.injEq]
    refine Plane.build_congr fun r _ x hx => ?_
    rcases Nat.lt_trichotomy r y with before | rfl | behind
    · rw [if_neg (Nat.ne_of_lt before), if_pos before, if_pos (Nat.lt_succ_of_lt before)]
    · rw [if_pos rfl, if_pos (Nat.lt_succ_self _), getD_extract room hx]
    · rw [if_neg (Nat.ne_of_gt behind), if_neg (Nat.not_lt_of_gt behind), if_neg (by omega)]

end

/-- A plane is copied as a whole, or is refused before its first row. -/
theorem copyPlane_eq (format : PixelFormat) (i : Nat)
    (words : source.linesize * shape.rows + shape.rowBytes < UInt64.size)
    (small : Plane.pitchFor shape.rowBytes * shape.rows < UInt64.size) :
    copyPlane format i shape source (Plane.zero shape) =
      if holds source shape = true then .ok (uploaded shape source)
      else .error (.refused (.planeTooSmall format i)) := by
  have last_le : source.linesize * (shape.rows - 1) ≤ source.linesize * shape.rows :=
    Nat.mul_le_mul_left _ (Nat.sub_le _ _)
  have last : Number.word? (source.linesize * (shape.rows - 1)) = _ := Number.word?_eq (by omega)
  have needed : Number.word? (source.linesize * (shape.rows - 1) + shape.rowBytes) = _ :=
    Number.word?_eq (by omega)
  have tested : source.linesize < shape.rowBytes ∨
      source.data.size < source.linesize * (shape.rows - 1) + shape.rowBytes ↔
        ¬holds source shape = true := by
    simp only [holds, Bool.and_eq_true, decide_eq_true_eq, not_and_or, Nat.not_le]
  simp only [copyPlane, last, needed, Attempt.ofOption, bind, Except.bind, tested]
  by_cases large : holds source shape = true
  · have copied : copyRows? source (min shape.rowBytes (Plane.zero shape).rowBytes)
        (Plane.zero shape) (min shape.rows (Plane.zero shape).rows) =
          some (uploaded shape source) := by
      show copyRows? source (min shape.rowBytes shape.rowBytes) (Plane.zero shape)
        (min shape.rows shape.rows) = _
      rw [Nat.min_self, Nat.min_self, copyRows?_zero large words small (Nat.le_refl _)]
      exact congrArg some (Plane.build_congr fun y hy _ _ => if_pos hy)
    rw [if_neg (not_not.2 large), if_pos large, copied]
  · rw [if_pos large, if_neg large]

/-- Row by row the planes of a frame are the ones that are built at once, and nothing that is read,
written or computed on the way is out of range. -/
theorem copyPlanes_eq (format : PixelFormat) {shapes : List Format.Shape}
    {sources : List FramePlane} (count : shapes.length ≤ sources.length)
    (words : ∀ slot ∈ shapes.zip sources,
      slot.2.linesize * slot.1.rows + slot.1.rowBytes < UInt64.size)
    (small : ∀ shape ∈ shapes, Plane.pitchFor shape.rowBytes * shape.rows < UInt64.size) (i : Nat) :
    copyPlanes format i shapes sources (shapes.map Plane.zero) =
      Attempt.ofExcept (uploadPlanes format i shapes sources) := by
  induction shapes generalizing sources i with
  | nil => simp [copyPlanes, uploadPlanes, Attempt.ofExcept]
  | cons shape shapes ih =>
    cases sources with
    | nil => cases count
    | cons source sources =>
      have first := copyPlane_eq format i (words (shape, source) List.mem_cons_self)
        (small shape List.mem_cons_self)
      have rest := ih (Nat.le_of_succ_le_succ count)
        (fun slot member => words slot (List.mem_cons_of_mem _ member))
        (fun shape member => small shape (List.mem_cons_of_mem _ member)) (i + 1)
      simp only [List.map_cons, copyPlanes, first, rest, uploadPlanes]
      by_cases large : holds source shape = true
      · simp only [if_pos large]
        cases uploadPlanes format (i + 1) shapes sources <;> rfl
      · simp only [if_neg large]
        rfl

theorem copyFrame_eq (frame : Frame) (columns : frame.width.toNat ≤ 2147483647)
    (rows : frame.height.toNat ≤ 2147483647)
    (words : ∀ slot ∈ (frame.format.shapes frame.width.toNat frame.height.toNat).zip frame.planes,
      slot.2.linesize * slot.1.rows + slot.1.rowBytes < UInt64.size) :
    let shapes := frame.format.shapes frame.width.toNat frame.height.toNat
    copyFrame frame shapes (shapes.map Plane.zero) = Attempt.ofExcept (upload frame shapes) := by
  intro shapes
  unfold copyFrame upload
  by_cases short : frame.planes.length < shapes.length
  · rw [if_pos short, if_pos short]
    rfl
  · rw [if_neg short, if_neg short]
    exact copyPlanes_eq frame.format (Nat.le_of_not_lt short) words
      (PixelFormat.pitchFor_mul_rows_lt columns rows) 0

end Bridge

end VideoScaler
