import VideoScaler.Proofs.Filter.Unchanged

/-! Frames from bytes without padding, and back.

Bytes are cut into planes one after the other, and every plane that is cut has the samples of its
shape. What a frame gives back are the meaningful rows of its planes, as many bytes as its format
and size stand for.
-/

set_option autoImplicit false

namespace VideoScaler

namespace PixelFormat

variable {f : PixelFormat} {width height : Nat}

theorem half_pos {n : Nat} (positive : 1 ≤ n) : 1 ≤ Format.half n := by
  unfold Format.half
  omega

theorem rows_pos (rows : 1 ≤ height) : ∀ shape ∈ f.shapes width height, 1 ≤ shape.rows := by
  have chroma := half_pos rows
  cases f <;> simp [shapes, rows, chroma]

theorem rowBytes_pos (columns : 1 ≤ width) :
    ∀ shape ∈ f.shapes width height, 1 ≤ shape.rowBytes := by
  have chroma := half_pos columns
  cases f <;> simp [shapes] <;> omega

theorem packedBytes_pos (host : f.isHardware = false) (columns : 1 ≤ width) (rows : 1 ≤ height) :
    0 < Format.packedBytes (f.shapes width height) := by
  cases shapes_eq : f.shapes width height with
  | nil =>
    rw [shapes_eq_nil_iff, host] at shapes_eq
    cases shapes_eq
  | cons shape shapes =>
    have member : shape ∈ f.shapes width height := by
      rw [shapes_eq]
      exact List.mem_cons_self
    have first : 0 < shape.bytes := Nat.mul_pos (rowBytes_pos columns shape member)
      (rows_pos rows shape member)
    rw [Format.packedBytes_cons]
    omega

end PixelFormat

def Plane.rowsOf (p : Plane) : List Bytes :=
  (List.range p.rows).map p.rowOf

namespace Frame

variable {shapes : List Format.Shape} {shape : Format.Shape} {data : Bytes} {offset : Nat}
  {f : Frame}

theorem tight_cutPlanes (enough : offset + Format.packedBytes shapes ≤ data.size) :
    List.Forall₂ FramePlane.Tight shapes (cutPlanes data offset shapes) := by
  induction shapes generalizing offset with
  | nil => exact .nil
  | cons shape shapes ih =>
    rw [Format.packedBytes_cons] at enough
    refine .cons ⟨rfl, ?_⟩ (ih (by omega))
    rw [Array.size_extract]
    omega

theorem holds_of_tight {plane : FramePlane} (tight : plane.Tight shape) (rows : 1 ≤ shape.rows) :
    Bridge.holds plane shape = true := by
  have last : shape.rowBytes * (shape.rows - 1) + shape.rowBytes = shape.rowBytes * shape.rows := by
    rw [← Nat.mul_succ, Nat.succ_eq_add_one, Nat.sub_add_cancel rows]
  simp only [Bridge.holds, tight.linesize_eq, tight.size_eq, Format.Shape.bytes, last, le_refl,
    decide_true, Bool.and_self]

theorem sampled_of_tight (payload_eq : f.payload = none) (rows : 1 ≤ f.height.toNat)
    (tight : List.Forall₂ FramePlane.Tight
      (f.format.shapes f.width.toNat f.height.toNat) f.planes) : f.Sampled where
  payload_eq := payload_eq
  count := Nat.le_of_eq tight.length_eq
  large slot member :=
    holds_of_tight (List.forall₂_iff_zip.1 tight |>.2 member)
      (PixelFormat.rows_pos rows slot.1 (List.of_mem_zip member).1)

theorem ofPacked?_eq (format : PixelFormat) (width height : UInt32) (data : Bytes) :
    ofPacked? format width height data =
      if format.isHardware = true ∨
          data.size < Format.packedBytes (format.shapes width.toNat height.toNat) then none
      else
        some { format, width, height
               planes := cutPlanes data 0 (format.shapes width.toNat height.toNat) } := by
  unfold ofPacked?
  split
  case h_1 none => rw [if_pos (.inl ((PixelFormat.shapes_eq_nil_iff ..).1 none))]
  case h_2 some =>
    have host : ¬format.isHardware = true := fun hardware =>
      some ((PixelFormat.shapes_eq_nil_iff ..).2 hardware)
    by_cases short : data.size < Format.packedBytes (format.shapes width.toNat height.toNat)
    · rw [if_pos short, if_pos (.inr short)]
    · rw [if_neg short, if_neg (not_or.2 ⟨host, short⟩)]

theorem ofPacked?_eq_some {format : PixelFormat} {width height : UInt32}
    (host : format.isHardware = false)
    (enough : Format.packedBytes (format.shapes width.toNat height.toNat) ≤ data.size) :
    ofPacked? format width height data =
      some { format, width, height
             planes := cutPlanes data 0 (format.shapes width.toNat height.toNat) } := by
  rw [ofPacked?_eq, if_neg (not_or.2 ⟨Bool.not_eq_true _ ▸ host, Nat.not_lt.2 enough⟩)]

theorem Sampled.fills (sampled : f.Sampled) :
    List.Forall₂ Plane.Fills (f.format.shapes f.width.toNat f.height.toNat) f.viewed := by
  obtain ⟨-, count, large⟩ := sampled
  unfold viewed
  generalize f.format.shapes f.width.toNat f.height.toNat = shapes at count large
  generalize f.planes = planes at count large
  induction shapes generalizing planes with
  | nil => exact .nil
  | cons shape shapes ih =>
    cases planes with
    | nil => cases count
    | cons plane planes =>
      refine .cons (Bridge.fills_viewed (large (shape, plane) List.mem_cons_self)) ?_
      exact ih planes (Nat.le_of_succ_le_succ count)
        fun slot member => large slot (List.mem_cons_of_mem _ member)

theorem size_foldl_append {pieces : List Bytes} {size : Nat}
    (sizes : ∀ piece ∈ pieces, piece.size = size) (bytes : Bytes) :
    (pieces.foldl (· ++ ·) bytes).size = bytes.size + pieces.length * size := by
  induction pieces generalizing bytes with
  | nil => simp
  | cons piece pieces ih =>
    have first : piece.size = size := sizes piece List.mem_cons_self
    have later := ih (fun p member => sizes p (List.mem_cons_of_mem _ member)) (bytes ++ piece)
    rw [List.foldl_cons, later, Array.size_append, first, List.length_cons, Nat.succ_mul]
    omega

theorem size_rows {p : Plane} (fills : Plane.Fills shape p) (bytes : Bytes) :
    (p.rowsOf.foldl (· ++ ·) bytes).size = bytes.size + shape.bytes := by
  have sizes : ∀ row ∈ p.rowsOf, row.size = shape.rowBytes := by
    simp [Plane.rowsOf, fills.rowBytes_eq]
  rw [size_foldl_append sizes, Plane.rowsOf, List.length_map, List.length_range, fills.rows_eq,
    Nat.mul_comm]
  rfl

theorem size_planes {planes : List Plane} (fills : List.Forall₂ Plane.Fills shapes planes)
    (bytes : Bytes) :
    ((planes.map Plane.rowsOf).flatten.foldl (· ++ ·) bytes).size
      = bytes.size + Format.packedBytes shapes := by
  induction fills generalizing bytes with
  | nil => rfl
  | cons first _ ih =>
    rw [List.map_cons, List.flatten_cons, List.foldl_append, ih, size_rows first,
      Format.packedBytes_cons, Nat.add_assoc]

theorem packed?_of_fills (fills : List.Forall₂ Plane.Fills shapes f.viewed) :
    f.packed? = some ((f.viewed.map Plane.rowsOf).flatten.foldl (· ++ ·) #[]) := by
  have whole := Plane.whole_of_fills fills
  rw [f.packed?_eq, Bridge.mapM_eq_some fun p member => (whole p member).meaningful?_eq]
  rfl

theorem Sampled.packed? (sampled : f.Sampled) :
    ∃ bytes, f.packed? = some bytes ∧
      bytes.size = Format.packedBytes (f.format.shapes f.width.toNat f.height.toNat) :=
  ⟨_, packed?_of_fills sampled.fills, (size_planes sampled.fills #[]).trans (Nat.zero_add _)⟩

end Frame

end VideoScaler
