import VideoScaler.Proofs.Filter.Sizes

/-! Bytes and frames, there and back.

A frame that is cut from bytes gives back the bytes it was cut from, as its rows follow each other.
Bytes that a frame gives make a frame without padding. Both frames give the same bytes, and their
rows have the same lengths, so that they have the same rows: bytes in a row are known from their
place among all bytes.
-/

set_option autoImplicit false

namespace VideoScaler

def FramePlane.Has (shape : Format.Shape) (p : FramePlane) : Prop :=
  ∀ y < shape.rows, y * p.linesize + shape.rowBytes ≤ p.data.size

instance (shape : Format.Shape) (p : FramePlane) : Decidable (p.Has shape) :=
  inferInstanceAs (Decidable (∀ y < shape.rows, _))

theorem FramePlane.Tight.has {shape : Format.Shape} {p : FramePlane} (tight : p.Tight shape) :
    p.Has shape := by
  intro y hy
  rw [tight.linesize_eq, tight.size_eq]
  exact Plane.row_end_le hy (Nat.le_refl _)

namespace Frame

/-! ### Sizes and places of 64 bits -/

/-- Cut bytes into planes. The sizes and the places of planes are numbers of 64 bits, and a plane
whose bytes are not there is out of range. -/
def cutWord? (data : Bytes) : Nat → List Format.Shape → Option (List FramePlane)
  | _, [] => some []
  | offset, shape :: shapes => do
    let bytes ← Number.word? (shape.rowBytes * shape.rows)
    let stop ← Number.word? (offset + bytes)
    if stop ≤ data.size then
      return ⟨data.extract offset stop, shape.rowBytes⟩ :: (← cutWord? data stop shapes)
    else none

/-- A frame from bytes without padding, or the refusal to make one, unless something is out of
range. -/
def ofPackedWord? (format : PixelFormat) (width height : UInt32) (data : Bytes) :
    Option (Option Frame) := do
  let shapes := format.shapes width.toNat height.toNat
  let total ← Format.packedWord? shapes
  if shapes = [] ∨ data.size < total then
    return none
  else
    return some { format, width, height, planes := ← cutWord? data 0 shapes }

def appendRows? (shape : Format.Shape) (p : FramePlane) (bytes : Bytes) : Option Bytes :=
  (List.range shape.rows).foldlM
    (fun bytes y => (p.wordRow? y shape.rowBytes).map fun row => bytes ++ row) bytes

/-- The samples without padding, appended row by row from places of 64 bits. -/
def packedWord? (f : Frame) : Option Bytes :=
  (f.planes.zip (f.format.shapes f.width.toNat f.height.toNat)).foldlM
    (fun bytes slot => appendRows? slot.2 slot.1 bytes) #[]

variable {shapes : List Format.Shape} {shape : Format.Shape} {data : Bytes} {offset : Nat}
  {f g : Frame} {plane : FramePlane}

theorem cutWord?_eq (enough : offset + Format.packedBytes shapes ≤ data.size)
    (small : offset + Format.packedBytes shapes < UInt64.size) :
    cutWord? data offset shapes = some (cutPlanes data offset shapes) := by
  induction shapes generalizing offset with
  | nil => rfl
  | cons shape shapes ih =>
    rw [Format.packedBytes_cons, ← Nat.add_assoc] at enough small
    have bytes : Number.word? (shape.rowBytes * shape.rows) = some shape.bytes :=
      Number.word?_eq (show shape.bytes < UInt64.size by omega)
    have stop : Number.word? (offset + shape.bytes) = some (offset + shape.bytes) :=
      Number.word?_eq (by omega)
    have there : offset + shape.bytes ≤ data.size := by omega
    simp only [cutWord?, bytes, stop, there, ih enough small, Option.bind_eq_bind, Option.bind_some,
      if_true]
    rfl

theorem ofPackedWord?_eq {format : PixelFormat} {width height : UInt32}
    (small : Format.packedBytes (format.shapes width.toNat height.toNat) < UInt64.size)
    (data : Bytes) :
    ofPackedWord? format width height data = some (ofPacked? format width height data) := by
  have total : Format.packedWord? (format.shapes width.toNat height.toNat) = _ :=
    (Format.packedWord?_eq _).trans (Number.word?_eq small)
  simp only [ofPackedWord?, total, ofPacked?_eq, PixelFormat.shapes_eq_nil_iff,
    Option.bind_eq_bind, Option.bind_some]
  split
  case isTrue => rfl
  case isFalse made =>
    have enough := Nat.not_lt.1 (not_or.1 made).2
    rw [cutWord?_eq (by rwa [Nat.zero_add]) (by rwa [Nat.zero_add])]
    rfl

theorem foldlM_append {α : Type} (piece? : α → Option Bytes) (l : List α) (bytes : Bytes) :
    l.foldlM (fun bytes a => (piece? a).map fun piece => bytes ++ piece) bytes =
      (l.mapM piece?).map fun pieces => pieces.foldl (· ++ ·) bytes := by
  induction l generalizing bytes with
  | nil => rfl
  | cons a l ih =>
    rw [List.foldlM_cons, List.mapM_cons]
    cases piece? a with
    | none => rfl
    | some piece =>
      show l.foldlM _ (bytes ++ piece) = _
      rw [ih]
      cases l.mapM piece? <;> rfl

theorem appendRows?_eq (has : FramePlane.Has shape plane) (small : plane.data.size < UInt64.size)
    (bytes : Bytes) :
    appendRows? shape plane bytes =
      (meaningfulRows? plane shape).map fun rows => rows.foldl (· ++ ·) bytes := by
  rw [appendRows?, foldlM_append, meaningfulRows?]
  refine congrArg (Option.map _) (mapM_congr_of_forall₂ (List.forall₂_same.2 fun y member => ?_))
  have room := has y (List.mem_range.1 member)
  exact FramePlane.wordRow?_eq_row? (Nat.lt_of_le_of_lt room small)

theorem foldlM_appendRows? {slots : List (FramePlane × Format.Shape)}
    (has : ∀ slot ∈ slots, FramePlane.Has slot.2 slot.1)
    (small : ∀ slot ∈ slots, slot.1.data.size < UInt64.size) (bytes : Bytes) :
    slots.foldlM (fun bytes slot => appendRows? slot.2 slot.1 bytes) bytes =
      (slots.mapM fun slot => meaningfulRows? slot.1 slot.2).map fun rows =>
        rows.flatten.foldl (· ++ ·) bytes := by
  induction slots generalizing bytes with
  | nil => rfl
  | cons slot slots ih =>
    obtain ⟨first, rest⟩ := List.forall_mem_cons.1 has
    obtain ⟨firstSmall, restSmall⟩ := List.forall_mem_cons.1 small
    rw [List.foldlM_cons, appendRows?_eq first firstSmall, List.mapM_cons]
    cases meaningfulRows? slot.1 slot.2 with
    | none => rfl
    | some rows =>
      show slots.foldlM _ (rows.foldl (· ++ ·) bytes) = _
      rw [ih rest restSmall]
      cases slots.mapM fun slot => meaningfulRows? slot.1 slot.2 with
      | none => rfl
      | some others =>
        show some _ = some ((rows :: others).flatten.foldl (· ++ ·) bytes)
        rw [List.flatten_cons, List.foldl_append]

theorem packedWord?_eq
    (has : List.Forall₂ FramePlane.Has (f.format.shapes f.width.toNat f.height.toNat) f.planes)
    (small : ∀ plane ∈ f.planes, plane.data.size < UInt64.size) : f.packedWord? = f.packed? := by
  let slots := f.planes.zip (f.format.shapes f.width.toNat f.height.toNat)
  have there : ∀ slot ∈ slots, FramePlane.Has slot.2 slot.1 := fun slot member =>
    (List.forall₂_iff_zip.1 has.flip).2 member
  have appended := foldlM_appendRows? there
    (fun slot member => small slot.1 (List.of_mem_zip member).1) #[]
  show slots.foldlM _ #[] = slots.mapM (fun slot => meaningfulRows? slot.1 slot.2) >>= _
  rw [appended]
  cases slots.mapM fun slot => meaningfulRows? slot.1 slot.2 <;> rfl

/-! ### From bytes to a frame and back -/

def pieces (data : Bytes) (offset size count : Nat) : List Bytes :=
  (List.range count).map fun y => data.extract (offset + y * size) (offset + (y + 1) * size)

theorem foldl_pieces (data : Bytes) (offset size count : Nat) :
    (pieces data offset size count).foldl (· ++ ·) (data.extract 0 offset) =
      data.extract 0 (offset + count * size) := by
  induction count with
  | zero => simp [pieces]
  | succ count ih =>
    have next : offset + count * size ≤ offset + (count + 1) * size := by
      rw [Nat.succ_mul]
      omega
    rw [pieces, List.range_succ, List.map_append, List.foldl_append, ← pieces, ih]
    show data.extract 0 (offset + count * size) ++ data.extract (offset + count * size)
      (offset + (count + 1) * size) = _
    rw [Array.extract_append_extract, Nat.zero_min, Nat.max_eq_right next]

theorem meaningfulRows?_cut (room : offset + shape.bytes ≤ data.size) :
    meaningfulRows? ⟨data.extract offset (offset + shape.bytes), shape.rowBytes⟩ shape =
      some (pieces data offset shape.rowBytes shape.rows) := by
  refine Bridge.mapM_eq_some fun y member => ?_
  have inside : y * shape.rowBytes + shape.rowBytes ≤ shape.bytes :=
    Plane.row_end_le (List.mem_range.1 member) (Nat.le_refl _)
  have whole : (data.extract offset (offset + shape.bytes)).size = shape.bytes := by
    rw [Array.size_extract]
    omega
  have stop : min (offset + (y * shape.rowBytes + shape.rowBytes)) (offset + shape.bytes) =
      offset + (y + 1) * shape.rowBytes := by
    rw [Nat.succ_mul]
    omega
  simp only [FramePlane.row?, whole, if_pos inside, Array.extract_extract, stop]

-- The bytes before the planes that are still to come have been given back already.
theorem rows_cutPlanes (enough : offset + Format.packedBytes shapes ≤ data.size) :
    ∃ rows, ((cutPlanes data offset shapes).zip shapes).mapM
        (fun slot => meaningfulRows? slot.1 slot.2) = some rows ∧
      rows.flatten.foldl (· ++ ·) (data.extract 0 offset) =
        data.extract 0 (offset + Format.packedBytes shapes) := by
  induction shapes generalizing offset with
  | nil => exact ⟨[], rfl, rfl⟩
  | cons shape shapes ih =>
    rw [Format.packedBytes_cons, ← Nat.add_assoc] at enough
    have room : offset + shape.bytes ≤ data.size := by omega
    obtain ⟨others, found, joined⟩ := ih enough
    refine ⟨pieces data offset shape.rowBytes shape.rows :: others, ?_, ?_⟩
    · rw [cutPlanes, List.zip_cons_cons, List.mapM_cons, meaningfulRows?_cut room,
        found]
      rfl
    · rw [List.flatten_cons, List.foldl_append, foldl_pieces, Nat.mul_comm shape.rows,
        Format.packedBytes_cons, ← Nat.add_assoc]
      exact joined

theorem packed?_of_cut
    (enough : Format.packedBytes (f.format.shapes f.width.toNat f.height.toNat) ≤ data.size)
    (cut : f.planes = cutPlanes data 0 (f.format.shapes f.width.toNat f.height.toNat)) :
    f.packed? = some (data.extract 0
      (Format.packedBytes (f.format.shapes f.width.toNat f.height.toNat))) := by
  obtain ⟨rows, found, joined⟩ := rows_cutPlanes (show 0 + _ ≤ _ by rwa [Nat.zero_add])
  rw [Array.extract_zero, Nat.zero_add] at joined
  show List.mapM (fun slot => meaningfulRows? slot.1 slot.2) (f.planes.zip _) >>= _ = _
  rw [cut, found]
  exact congrArg some joined

/-! ### From a frame to bytes and back -/

theorem toList_foldl_append (pieces : List Bytes) (bytes : Bytes) :
    (pieces.foldl (· ++ ·) bytes).toList = bytes.toList ++ (pieces.map Array.toList).flatten := by
  induction pieces generalizing bytes with
  | nil => simp
  | cons piece pieces ih => simp [ih]

/-- Pieces of known sizes are known from the bytes they make up. -/
theorem eq_of_foldl_append {first second : List Bytes}
    (sizes : first.map Array.size = second.map Array.size)
    (same : first.foldl (· ++ ·) #[] = second.foldl (· ++ ·) #[]) : first = second := by
  have lengths : (first.map Array.toList).map List.length =
      (second.map Array.toList).map List.length := by
    rw [List.map_map, List.map_map]
    exact sizes
  have bytes := congrArg Array.toList same
  rw [toList_foldl_append, toList_foldl_append] at bytes
  exact List.map_injective_iff.2 (fun _ _ => Array.toList_inj.1)
    (List.eq_iff_flatten_eq.2 ⟨bytes, lengths⟩)

theorem sizes_rowsOf {planes : List Plane} (fills : List.Forall₂ Plane.Fills shapes planes) :
    (planes.map Plane.rowsOf).map (List.map Array.size) =
      shapes.map fun shape => List.replicate shape.rows shape.rowBytes := by
  induction fills with
  | nil => rfl
  | cons first _ ih =>
    rw [List.map_cons, List.map_cons, List.map_cons, ih]
    congr 1
    simp [Plane.rowsOf, Function.comp_def, first.rows_eq, first.rowBytes_eq]

theorem sameRows_of_rowsOf {p q : Plane} (left : Plane.Fills shape p) (right : Plane.Fills shape q)
    (same : p.rowsOf = q.rowsOf) : Plane.SameRows p q := by
  refine ⟨left.rowBytes_eq.trans right.rowBytes_eq.symm, left.rows_eq.trans right.rows_eq.symm,
    fun y hy => ?_⟩
  rw [Plane.rowsOf, Plane.rowsOf, left.rows_eq, right.rows_eq] at same
  have row : p.rowOf y = q.rowOf y :=
    List.map_inj_left.1 same y (List.mem_range.2 (left.rows_eq ▸ hy))
  rw [left.row? (left.rows_eq ▸ hy), right.row? (left.rows_eq ▸ hy), row]

theorem sameRows_of_map_rowsOf {planes others : List Plane}
    (left : List.Forall₂ Plane.Fills shapes planes) (right : List.Forall₂ Plane.Fills shapes others)
    (same : planes.map Plane.rowsOf = others.map Plane.rowsOf) :
    List.Forall₂ Plane.SameRows planes others := by
  induction left generalizing others with
  | nil =>
    cases right
    exact .nil
  | cons first _ ih =>
    cases right with
    | cons second right =>
      obtain ⟨row, rest⟩ := List.cons.inj same
      exact .cons (sameRows_of_rowsOf first second row) (ih right rest)

/-- Frames with rows of the same lengths have the same rows if they give the same bytes. -/
theorem sameRows_of_packed? (left : List.Forall₂ Plane.Fills shapes f.viewed)
    (right : List.Forall₂ Plane.Fills shapes g.viewed) (same : f.packed? = g.packed?) :
    List.Forall₂ Plane.SameRows f.viewed g.viewed := by
  rw [packed?_of_fills left, packed?_of_fills right, Option.some.injEq] at same
  have sizes := (sizes_rowsOf left).trans (sizes_rowsOf right).symm
  -- Rows are told apart by their lengths first, and planes by their numbers of rows then.
  have flat : (f.viewed.map Plane.rowsOf).flatten = (g.viewed.map Plane.rowsOf).flatten := by
    refine eq_of_foldl_append ?_ same
    rw [List.map_flatten, List.map_flatten, sizes]
  have counts : (f.viewed.map Plane.rowsOf).map List.length =
      (g.viewed.map Plane.rowsOf).map List.length := by
    simpa [List.map_map, Function.comp_def] using congrArg (List.map List.length) sizes
  exact sameRows_of_map_rowsOf left right (List.eq_iff_flatten_eq.2 ⟨flat, counts⟩)

theorem fills_of_has {planes : List FramePlane} (has : List.Forall₂ FramePlane.Has shapes planes) :
    List.Forall₂ Plane.Fills shapes (List.zipWith FramePlane.viewed shapes planes) := by
  induction has with
  | nil => exact .nil
  | cons first _ ih => exact .cons ⟨rfl, rfl, first⟩ ih

/-! ### Round trips -/

section
variable {format : PixelFormat} {width height : UInt32}

theorem cut_of_ofPacked? (made : ofPacked? format width height data = some f) :
    format.isHardware = false ∧
      Format.packedBytes (format.shapes width.toNat height.toNat) ≤ data.size ∧
      f = { format, width, height
            planes := cutPlanes data 0 (format.shapes width.toNat height.toNat) } := by
  rw [ofPacked?_eq] at made
  split at made
  case isTrue => cases made
  case isFalse accepted =>
    obtain ⟨host, enough⟩ := not_or.1 accepted
    exact ⟨Bool.eq_false_of_not_eq_true host, Nat.not_lt.1 enough, (Option.some.inj made).symm⟩

theorem size_plane_lt
    (small : Format.packedBytes shapes < UInt64.size) {planes : List FramePlane}
    (tight : List.Forall₂ FramePlane.Tight shapes planes) :
    ∀ plane ∈ planes, plane.data.size < UInt64.size := by
  induction tight with
  | nil => nofun
  | cons first _ ih =>
    rw [Format.packedBytes_cons] at small
    refine List.forall_mem_cons.2 ⟨?_, ih (by omega)⟩
    rw [first.size_eq]
    omega

theorem packed?_of_ofPacked?
    (small : Format.packedBytes (format.shapes width.toNat height.toNat) < UInt64.size)
    (made : ofPacked? format width height data = some f) :
    f.packed? = some (data.extract 0
        (Format.packedBytes (format.shapes width.toNat height.toNat))) ∧
      f.packedWord? = f.packed? := by
  obtain ⟨-, enough, rfl⟩ := cut_of_ofPacked? made
  have tight : List.Forall₂ FramePlane.Tight (format.shapes width.toNat height.toNat)
      (cutPlanes data 0 (format.shapes width.toNat height.toNat)) :=
    tight_cutPlanes (by rwa [Nat.zero_add])
  exact ⟨packed?_of_cut enough rfl,
    packedWord?_eq (tight.imp fun _ _ => FramePlane.Tight.has) (size_plane_lt small tight)⟩

theorem ofPacked?_of_packed? (host : f.format.isHardware = false)
    (has : List.Forall₂ FramePlane.Has (f.format.shapes f.width.toNat f.height.toNat) f.planes) :
    ∃ bytes g, f.packed? = some bytes ∧ ofPacked? f.format f.width f.height bytes = some g ∧
      List.Forall₂ FramePlane.Tight (f.format.shapes f.width.toNat f.height.toNat) g.planes ∧
      g.packed? = some bytes ∧ List.Forall₂ Plane.SameRows f.viewed g.viewed := by
  have fills := fills_of_has has
  have given := packed?_of_fills (f := f) fills
  have size_eq := (size_planes fills #[]).trans (Nat.zero_add _)
  let bytes := (f.viewed.map Plane.rowsOf).flatten.foldl (· ++ ·) #[]
  let g : Frame :=
    { format := f.format, width := f.width, height := f.height
      planes := cutPlanes bytes 0 (f.format.shapes f.width.toNat f.height.toNat) }
  have tight : List.Forall₂ FramePlane.Tight (f.format.shapes f.width.toNat f.height.toNat)
      g.planes := tight_cutPlanes (by rw [Nat.zero_add]; exact Nat.le_of_eq size_eq.symm)
  have back : g.packed? = some bytes := by
    rw [packed?_of_cut (f := g) (Nat.le_of_eq size_eq.symm) rfl]
    exact congrArg some (Array.extract_eq_self_of_le (Nat.le_of_eq size_eq))
  refine ⟨bytes, g, given, ofPacked?_eq_some host (Nat.le_of_eq size_eq.symm), tight, back, ?_⟩
  exact sameRows_of_packed? fills (fills_of_has (tight.imp fun _ _ => FramePlane.Tight.has))
    (given.trans back.symm)

end

/-- Bytes make a frame exactly if its format is one in host memory and there are enough of them, and
the frame gives back those that it has room for. A frame that has its rows, whatever stands between
them, gives bytes that make a frame without padding, with the same bytes and the same rows. No size
and no place is out of range where the size of the picture, and of the planes that are there, is a
number of 64 bits. -/
theorem packed_round_trip (format : PixelFormat) (width height : UInt32) :
    let shapes := format.shapes width.toNat height.toNat
    let total := Format.packedBytes shapes
    (total < UInt64.size → ∀ data : Bytes,
      ofPackedWord? format width height data = some (ofPacked? format width height data) ∧
      ((∃ f, ofPacked? format width height data = some f) ↔
        format.isHardware = false ∧ total ≤ data.size) ∧
      ∀ f, ofPacked? format width height data = some f →
        f.format = format ∧ f.width = width ∧ f.height = height ∧
        f.packed? = some (data.extract 0 total) ∧ f.packedWord? = f.packed?) ∧
    ∀ f : Frame, f.format = format → f.width = width → f.height = height →
      format.isHardware = false → List.Forall₂ FramePlane.Has shapes f.planes →
      ((∀ plane ∈ f.planes, plane.data.size < UInt64.size) → f.packedWord? = f.packed?) ∧
      ∃ bytes g, f.packed? = some bytes ∧ ofPacked? format width height bytes = some g ∧
        List.Forall₂ FramePlane.Tight shapes g.planes ∧ g.packed? = some bytes ∧
        List.Forall₂ Plane.SameRows f.viewed g.viewed := by
  intro shapes total
  refine ⟨fun small data => ⟨ofPackedWord?_eq small data, ⟨?_, ?_⟩, fun f made => ?_⟩, ?_⟩
  · rintro ⟨f, made⟩
    obtain ⟨host, enough, -⟩ := cut_of_ofPacked? made
    exact ⟨host, enough⟩
  · rintro ⟨host, enough⟩
    exact ⟨_, ofPacked?_eq_some host enough⟩
  · have given := packed?_of_ofPacked? small made
    obtain ⟨-, -, rfl⟩ := cut_of_ofPacked? made
    exact ⟨rfl, rfl, rfl, given⟩
  · rintro f rfl rfl rfl host has
    exact ⟨packedWord?_eq has, ofPacked?_of_packed? host has⟩

def oddFrame : Frame where
  format := .yuv420p
  width := 3
  height := 3
  planes := [⟨#[1, 2, 3, 0, 4, 5, 6, 0, 7, 8, 9], 4⟩, ⟨#[10, 11, 0, 12, 13], 3⟩,
    ⟨#[14, 15, 16, 17, 0], 2⟩]

/-- Bytes that are left over are not given back, and padding is not either. -/
theorem odd_round_trip :
    let bytes : Bytes := #[1, 2, 3, 4, 5, 6, 7, 8, 9, 10, 11, 12, 13, 14, 15, 16, 17]
    (∃ f, ofPacked? .yuv420p 3 3 (bytes.push 18) = some f ∧ f.packed? = some bytes) ∧
      oddFrame.packedWord? = some bytes ∧
      ∃ g, ofPacked? .yuv420p 3 3 bytes = some g ∧
        List.Forall₂ Plane.SameRows oddFrame.viewed g.viewed := by
  intro bytes
  obtain ⟨cut, joined⟩ := packed_round_trip .yuv420p 3 3
  obtain ⟨-, accepted, back⟩ := cut (by decide) (bytes.push 18)
  obtain ⟨f, made⟩ := accepted.2 ⟨rfl, by decide⟩
  obtain ⟨-, -, -, restored, -⟩ := back f made
  obtain ⟨words, given, g, packed, again, -, -, same⟩ :=
    joined oddFrame rfl rfl rfl rfl (by decide)
  have given_eq : given = bytes := Option.some.inj (packed.symm.trans (by decide))
  refine ⟨⟨f, made, restored.trans (by decide)⟩, ?_, g, given_eq ▸ again, same⟩
  exact (words (by decide)).trans (packed.trans (congrArg some given_eq))

end Frame

end VideoScaler
