import Mathlib.Data.List.Forall2
import VideoScaler.Surface.Plane

/-! Rows of planes, and the planes of a surface of a given size.

A plane fills a shape when it has the meaningful bytes of all rows of the shape, however far
its rows are apart. Planes that the accelerator lays out fill their shapes; what is read back
from a row is what the plane was built from.
-/

set_option autoImplicit false

namespace VideoScaler

theorem ne_zero_of_toNat_pos {n : UInt32} (pos : 0 < n.toNat) : n ≠ 0 :=
  UInt32.pos_iff_ne_zero.1 (UInt32.lt_iff_toNat_lt.2 pos)

namespace Plane

/-- The byte in column `x` of row `y`; zero past the end of the data. -/
def byteAt (p : Plane) (y x : Nat) : UInt8 :=
  p.data.getD (y * p.pitch + x) 0

def Whole (p : Plane) : Prop :=
  ∀ y < p.rows, y * p.pitch + p.rowBytes ≤ p.data.size

structure Fills (shape : Format.Shape) (p : Plane) : Prop where
  rowBytes_eq : p.rowBytes = shape.rowBytes
  rows_eq : p.rows = shape.rows
  whole : p.Whole

instance (p : Plane) : Decidable p.Whole :=
  inferInstanceAs (Decidable (∀ y < p.rows, _))

instance (shape : Format.Shape) (p : Plane) : Decidable (Fills shape p) :=
  decidable_of_iff (p.rowBytes = shape.rowBytes ∧ p.rows = shape.rows ∧ p.Whole)
    ⟨fun h => ⟨h.1, h.2.1, h.2.2⟩, fun h => ⟨h.rowBytes_eq, h.rows_eq, h.whole⟩⟩

def rowOf (p : Plane) (y : Nat) : Bytes :=
  Array.ofFn fun x : Fin p.rowBytes => p.byteAt y x

variable {p q : Plane} {shape : Format.Shape} {y x : Nat}

@[simp] theorem size_rowOf : (p.rowOf y).size = p.rowBytes := by
  simp [rowOf]

@[simp] theorem getElem_rowOf (hx : x < (p.rowOf y).size) : (p.rowOf y)[x] = p.byteAt y x := by
  simp [rowOf]

theorem getElem?_rowOf :
    (p.rowOf y)[x]? = if x < p.rowBytes then some (p.byteAt y x) else none := by
  simp only [rowOf, Array.getElem?_ofFn]
  split <;> rfl

theorem Whole.row? (whole : p.Whole) (hy : y < p.rows) : p.row? y = some (p.rowOf y) := by
  have room := whole y hy
  simp only [Plane.row?, if_pos room, Option.some.injEq]
  apply Array.ext
  · simp only [Array.size_extract, size_rowOf]
    omega
  · intro x hx _
    simp only [Array.size_extract] at hx
    have inside : y * p.pitch + x < p.data.size := by omega
    simp [rowOf, byteAt, Array.getD, inside]

theorem Fills.row? (fills : Fills shape p) (hy : y < shape.rows) :
    p.row? y = some (p.rowOf y) :=
  fills.whole.row? (fills.rows_eq ▸ hy)

theorem row_end_le {pitch rows : Nat} (hy : y < rows) (hx : x ≤ pitch) :
    y * pitch + x ≤ pitch * rows :=
  calc
    y * pitch + x ≤ y * pitch + pitch := Nat.add_le_add_left hx _
    _ = (y + 1) * pitch := (Nat.succ_mul y pitch).symm
    _ ≤ rows * pitch := Nat.mul_le_mul_right pitch hy
    _ = pitch * rows := Nat.mul_comm rows pitch

theorem fills_of_size (rowBytes_eq : p.rowBytes = shape.rowBytes) (rows_eq : p.rows = shape.rows)
    (pitch_eq : p.pitch = pitchFor shape.rowBytes)
    (size_eq : p.data.size = pitchFor shape.rowBytes * shape.rows) : Fills shape p := by
  refine ⟨rowBytes_eq, rows_eq, fun y hy => ?_⟩
  rw [rowBytes_eq, pitch_eq, size_eq]
  exact row_end_le (rows_eq ▸ hy) (rowBytes_le_pitchFor _)

theorem fills_build (shape : Format.Shape) (byte : Nat → Nat → UInt8) :
    Fills shape (build shape byte) :=
  fills_of_size rfl rfl rfl (by simp [build])

theorem fills_zero (shape : Format.Shape) : Fills shape (zero shape) :=
  fills_of_size rfl rfl rfl (by simp [zero, bytesFor])

theorem byteAt_build (byte : Nat → Nat → UInt8) (hy : y < shape.rows) (hx : x < shape.rowBytes) :
    (build shape byte).byteAt y x = byte y x := by
  -- Row and column are recovered from the place of a byte, as no row is longer than the pitch.
  have narrow : x < pitchFor shape.rowBytes :=
    Nat.lt_of_lt_of_le hx (rowBytes_le_pitchFor shape.rowBytes)
  have inside : y * pitchFor shape.rowBytes + x < pitchFor shape.rowBytes * shape.rows :=
    row_end_le (x := x + 1) hy narrow
  have column : (y * pitchFor shape.rowBytes + x) % pitchFor shape.rowBytes = x := by
    rw [Nat.mul_add_mod_self_right, Nat.mod_eq_of_lt narrow]
  have row : (y * pitchFor shape.rowBytes + x) / pitchFor shape.rowBytes = y := by
    rw [Nat.mul_comm, Nat.mul_add_div (pitchFor_pos _), Nat.div_eq_of_lt narrow, Nat.add_zero]
  simp [byteAt, build, Array.getD, inside, column, row, hx]

/-- Do two planes of one shape have the same meaningful bytes? -/
def SameRows (p q : Plane) : Prop :=
  p.rowBytes = q.rowBytes ∧ p.rows = q.rows ∧ ∀ y < p.rows, p.row? y = q.row? y

instance (p q : Plane) : Decidable (SameRows p q) :=
  inferInstanceAs (Decidable (_ ∧ _ ∧ ∀ y < p.rows, _))

theorem SameRows.trans {p q r : Plane} (first : SameRows p q) (second : SameRows q r) :
    SameRows p r := by
  obtain ⟨bytes, rows, row⟩ := first
  obtain ⟨bytes', rows', row'⟩ := second
  refine ⟨bytes.trans bytes', rows.trans rows', fun y hy => ?_⟩
  exact (row y hy).trans (row' y (rows ▸ hy))

theorem end_le_of_row? {row : Bytes} (found : p.row? y = some row) :
    y * p.pitch + p.rowBytes ≤ p.data.size := by
  by_cases room : y * p.pitch + p.rowBytes ≤ p.data.size
  · exact room
  · rw [Plane.row?, if_neg room] at found
    cases found

theorem Fills.of_sameRows (fills : Fills shape p) (same : SameRows p q) : Fills shape q := by
  obtain ⟨bytes, rows, row⟩ := same
  refine ⟨bytes.symm.trans fills.rowBytes_eq, rows.symm.trans fills.rows_eq, fun y hy => ?_⟩
  have inside : y < p.rows := rows ▸ hy
  have found := row y inside
  rw [fills.whole.row? inside] at found
  exact end_le_of_row? found.symm

theorem sameRows_iff_byteAt (left : Fills shape p) (right : Fills shape q) :
    SameRows p q ↔ ∀ y < shape.rows, ∀ x < shape.rowBytes, p.byteAt y x = q.byteAt y x := by
  simp only [SameRows, left.rowBytes_eq, right.rowBytes_eq, left.rows_eq, right.rows_eq, true_and]
  refine forall₂_congr fun y hy => ?_
  rw [left.row? hy, right.row? hy, Option.some.injEq]
  constructor
  · -- Equal rows have equal bytes: a row is looked at in one column.
    intro same x hx
    have byte := congrArg (fun row : Bytes => row[x]?) same
    simpa only [getElem?_rowOf, left.rowBytes_eq, right.rowBytes_eq, hx, if_true,
      Option.some.injEq] using byte
  · intro same
    apply Array.ext
    · simp [left.rowBytes_eq, right.rowBytes_eq]
    · intro x hx _
      simp only [size_rowOf, left.rowBytes_eq] at hx
      simpa [rowOf] using same x hx

theorem sameRows_build {byte : Nat → Nat → UInt8} (fills : Fills shape p)
    (same : ∀ y < shape.rows, ∀ x < shape.rowBytes, p.byteAt y x = byte y x) :
    SameRows p (build shape byte) := by
  refine (sameRows_iff_byteAt fills (fills_build shape byte)).2 fun y hy x hx => ?_
  rw [byteAt_build byte hy hx]
  exact same y hy x hx

theorem whole_of_fills {shapes : List Format.Shape} {planes : List Plane}
    (fills : List.Forall₂ Fills shapes planes) : ∀ p ∈ planes, p.Whole := by
  induction fills with
  | nil =>
    intro p member
    cases member
  | cons first _ ih => exact List.forall_mem_cons.2 ⟨first.whole, ih⟩

end Plane

/-- Are these the planes of a surface of this size? -/
def SurfaceFormat.Laid (f : SurfaceFormat) (width height : Nat) (planes : List Plane) : Prop :=
  List.Forall₂ Plane.Fills (f.shapes width height) planes

namespace SurfaceFormat.Laid

instance (f : SurfaceFormat) (width height : Nat) (planes : List Plane) :
    Decidable (f.Laid width height planes) :=
  inferInstanceAs (Decidable (List.Forall₂ _ _ _))

variable {f : SurfaceFormat} {width height : Nat} {planes : List Plane}

theorem length_eq (laid : f.Laid width height planes) :
    planes.length = (f.shapes width height).length :=
  (List.Forall₂.length_eq laid).symm

theorem whole (laid : f.Laid width height planes) : ∀ p ∈ planes, p.Whole :=
  Plane.whole_of_fills laid

end SurfaceFormat.Laid

namespace SurfaceFormat

variable {f : SurfaceFormat} {w h : UInt32}

theorem fits_iff {width height : Nat} : f.Fits width height ↔
    ∀ shape ∈ f.shapes width height, Plane.bytesFor shape ≤ Bytes.limit :=
  List.forall_mem_map

theorem Fits.shapes {width height : Nat} (fits : f.Fits width height) :
    Bytes.Fit ((f.shapes width height).map Format.Shape.bytes) := by
  refine List.forall_mem_map.2 fun shape member => ?_
  calc
    shape.bytes ≤ Plane.bytesFor shape :=
      Nat.mul_le_mul_right _ (Plane.rowBytes_le_pitchFor _)
    _ ≤ Bytes.limit := fits_iff.1 fits shape member

theorem allocation_eq (known : f ≠ .unknown) (columns : w ≠ 0) (rows : h ≠ 0) :
    f.allocation w h = if f.Fits w.toNat h.toNat then .ok (f.shapes w.toNat h.toNat)
      else .error (.broken .tooLarge) := by
  unfold allocation
  rw [if_neg fun empty => empty.elim columns rows]
  split
  case h_1 none => exact absurd ((shapes_eq_nil_iff ..).1 none) known
  case h_2 =>
    split
    case isTrue fits => rw [Attempt.room_of_fit fits]; rfl
    case isFalse large => rw [Attempt.room_of_not_fit large]; rfl

theorem allocation_ok (known : f ≠ .unknown) (columns : w ≠ 0) (rows : h ≠ 0)
    (fits : f.Fits w.toNat h.toNat) : f.allocation w h = .ok (f.shapes w.toNat h.toNat) := by
  rw [allocation_eq known columns rows, if_pos fits]

theorem allocation_eq_ok_iff {shapes : List Format.Shape} :
    f.allocation w h = .ok shapes ↔
      f ≠ .unknown ∧ w ≠ 0 ∧ h ≠ 0 ∧ f.Fits w.toNat h.toNat ∧
        f.shapes w.toNat h.toNat = shapes := by
  constructor
  · intro allocated
    have positive : ¬ (w = 0 ∨ h = 0) := fun empty => by
      simp only [allocation, if_pos empty] at allocated
      cases allocated
    have known : f ≠ .unknown := fun unknown => by
      subst unknown
      simp only [allocation, if_neg positive, SurfaceFormat.shapes] at allocated
      cases allocated
    obtain ⟨columns, rows⟩ := not_or.1 positive
    rw [allocation_eq known columns rows] at allocated
    split at allocated
    case isTrue fits => exact ⟨known, columns, rows, fits, Except.ok.inj allocated⟩
    case isFalse => cases allocated
  · rintro ⟨known, columns, rows, fits, rfl⟩
    exact allocation_ok known columns rows fits

theorem Laid.of_allocation {shapes : List Format.Shape}
    (allocated : f.allocation w h = .ok shapes) :
    f.Laid w.toNat h.toNat (shapes.map Plane.zero) := by
  obtain ⟨-, -, -, -, rfl⟩ := allocation_eq_ok_iff.1 allocated
  simp only [Laid, List.forall₂_map_right_iff, List.forall₂_same]
  exact fun shape _ => Plane.fills_zero shape

end SurfaceFormat

end VideoScaler
