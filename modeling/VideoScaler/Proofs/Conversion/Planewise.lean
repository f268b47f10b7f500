import VideoScaler.Proofs.Conversion.Reading

/-! Conversion plane by plane.

A plane that covers a region has all bytes that copying or scaling the region reads, so the
check in front of both is the only thing that can go wrong. The planes of a surface cover
every region inside of the surface, also where the region starts or ends between two color
samples.
-/

set_option autoImplicit false

namespace VideoScaler.Conversion

variable {region : Region} {d : PlaneLayout} {shape : Format.Shape} {p : Plane}

theorem PlaneLayout.position_zero (d : PlaneLayout) : d.position 0 = 0 := by
  simp [position]

theorem covers_iff : covers p d region = true ↔
    d.position region.top + d.length region.height ≤ p.rows ∧
      d.position region.left * d.pixelBytes + d.rowBytes region.width ≤ p.rowBytes := by
  simp [covers]

/-- A plane with the bytes that another one has in a region, and zeros around them. -/
def copied (region : Region) (d : PlaneLayout) (shape : Format.Shape) (p : Plane) : Plane :=
  Plane.build shape fun y x =>
    if y < d.length region.height ∧ x < d.rowBytes region.width then
      p.byteAt (d.position region.top + y) (d.position region.left * d.pixelBytes + x)
    else 0

theorem copyPlane_eq (shape : Format.Shape) (whole : p.Whole)
    (covered : covers p d region = true) :
    copyPlane region d shape p = .ok (copied region d shape p) := by
  obtain ⟨rows, columns⟩ := covers_iff.1 covered
  have row (y : Fin (d.length region.height)) :
      p.row? (d.position region.top + y) = some (p.rowOf (d.position region.top + y)) :=
    whole.row? (by omega)
  simp only [copyPlane, row, Option.bind_eq_bind, Option.bind_some, Option.pure_def]
  rw [ofFnM_eq_some fun _ => rfl]
  simp only [Option.bind_some, Attempt.ofOption, copied]
  congr 2
  funext y x
  -- Only the bytes of the region are taken from the plane.
  by_cases hy : y < d.length region.height
  · by_cases hx : x < d.rowBytes region.width
    · simp [hy, hx, Array.getD_eq_getD_getElem?, Nat.min_eq_left columns]
    · simp [hy, hx, Array.getD_eq_getD_getElem?, Nat.min_eq_left columns]
  · simp [hy]

theorem sample_end_le (d : PlaneLayout) {n x k : Nat} (hx : x < d.length n) (hk : k < d.channels) :
    (x * d.channels + k + 1) * d.sampleBytes ≤ d.rowBytes n := by
  have pixel : x * d.channels + k + 1 ≤ d.length n * d.channels :=
    calc
      x * d.channels + k + 1 ≤ x * d.channels + d.channels := by omega
      _ = (x + 1) * d.channels := (Nat.succ_mul _ _).symm
      _ ≤ d.length n * d.channels := Nat.mul_le_mul_right _ hx
  calc
    (x * d.channels + k + 1) * d.sampleBytes
      ≤ d.length n * d.channels * d.sampleBytes := Nat.mul_le_mul_right _ pixel
    _ = d.rowBytes n := by simp only [PlaneLayout.rowBytes, PlaneLayout.pixelBytes, Nat.mul_assoc]

theorem sample_place (d : PlaneLayout) (left i n : Nat) :
    (d.position left * d.channels + i) * d.sampleBytes + n
      = d.position left * d.pixelBytes + (i * d.sampleBytes + n) := by
  rw [Nat.add_mul, PlaneLayout.pixelBytes, Nat.mul_assoc, Nat.add_assoc]

theorem isSome_readSamples? (whole : p.Whole) (covered : covers p d region = true) :
    (readSamples? region d p).isSome = true := by
  obtain ⟨rows, columns⟩ := covers_iff.1 covered
  refine isSome_ofFnM.2 fun y => ?_
  rw [whole.row? (by omega)]
  refine isSome_ofFnM.2 fun x => isSome_ofFnM.2 fun k => (isSome_sampleAt?_rowOf ..).2 ?_
  have last := sample_end_le d x.isLt k.isLt
  rw [Nat.succ_mul] at last
  rw [sample_place]
  simp only [PlaneLayout.sampleBytes] at last ⊢
  split <;> simp_all <;> omega

theorem scalePlane_eq (interpolation : Interpolation) (width height : Nat)
    (shape : Format.Shape) (whole : p.Whole) (covered : covers p d region = true) :
    ∃ byte, scalePlane interpolation region width height d shape p
      = .ok (Plane.build shape byte) := by
  obtain ⟨samples, read⟩ := Option.isSome_iff_exists.1 (isSome_readSamples? whole covered)
  simp only [scalePlane, read]
  exact ⟨_, rfl⟩

section
variable {convert : PlaneLayout → Format.Shape → Plane → Attempt Refusal Plane}
  {ds : List PlaneLayout} {shapes : List Format.Shape} {ps : List Plane}

theorem planewise_cons (i : Nat) :
    planewise convert region i (d :: ds) (shape :: shapes) (p :: ps) =
      if covers p d region then
        (convert d shape p).bind fun q =>
          (planewise convert region (i + 1) ds shapes ps).map fun rest => q :: rest
      else .error (.refused (.sourceTooSmall i)) := by
  rw [planewise]
  cases covers p d region with
  | false => rfl
  | true =>
    cases convert d shape p with
    | error e => rfl
    | ok q => cases planewise convert region (i + 1) ds shapes ps <;> rfl

theorem planewise_congr {other : PlaneLayout → Format.Shape → Plane → Attempt Refusal Plane}
    {moved : Region} {qs : List Plane}
    (same : List.Forall₂ (fun slot q => covers q slot.1 moved = covers slot.2 slot.1 region ∧
      ∀ shape, other slot.1 shape q = convert slot.1 shape slot.2) (ds.zip ps) qs)
    (shapes : List Format.Shape) (i : Nat) :
    planewise other moved i ds shapes qs = planewise convert region i ds shapes ps := by
  induction ds generalizing shapes ps qs i with
  | nil => simp [planewise]
  | cons d ds ih =>
    cases shapes with
    | nil => simp [planewise]
    | cons shape shapes =>
      cases ps with
      | nil =>
        cases same
        simp [planewise]
      | cons p ps =>
        cases same with
        | cons first rest => rw [planewise_cons, planewise_cons, first.1, first.2, ih rest]

section
variable {R : PlaneLayout → Format.Shape → Plane → Plane → Prop}
  (total : ∀ d shape p, p.Whole → covers p d region = true →
    ∃ q, convert d shape p = .ok q ∧ R d shape p q)
  (whole : ∀ p ∈ ps, p.Whole)
include total whole

-- The relation between a plane and its result is arbitrary: copying needs to know all bytes of
-- the result, scaling only its size. All planes are converted, or one of them is too small.
theorem planewise_cases (shapes : List Format.Shape) (i : Nat) :
    (∃ out, planewise convert region i ds shapes ps = .ok out ∧
      List.Forall₂ (fun slot q => R slot.1 slot.2.1 slot.2.2 q) (ds.zip (shapes.zip ps)) out) ∨
    ∃ slot ∈ ds.zip ps, covers slot.2 slot.1 region = false ∧
      ∃ j, planewise convert region i ds shapes ps = .error (.refused (.sourceTooSmall j)) := by
  induction ds generalizing shapes ps i with
  | nil => exact .inl ⟨[], by simp [planewise], by simp⟩
  | cons d ds ih =>
    cases shapes with
    | nil => exact .inl ⟨[], by simp [planewise], by simp⟩
    | cons shape shapes =>
      cases ps with
      | nil => exact .inl ⟨[], by simp [planewise], by simp⟩
      | cons p ps =>
        rw [planewise_cons]
        by_cases inside : covers p d region = true
        · obtain ⟨q, converted, related⟩ := total d shape p (whole p (by simp)) inside
          rw [if_pos inside, converted]
          obtain ⟨rest, others, relatedRest⟩ | ⟨slot, member, uncovered, j, others⟩ :=
            ih (fun p member => whole p (List.mem_cons_of_mem _ member)) shapes (i + 1)
          · refine .inl ⟨q :: rest, ?_, .cons related relatedRest⟩
            rw [others]
            rfl
          · refine .inr ⟨slot, List.mem_cons_of_mem _ member, uncovered, j, ?_⟩
            rw [others]
            rfl
        · exact .inr ⟨(d, p), List.mem_cons_self, Bool.eq_false_iff.2 inside, i, if_neg inside⟩

theorem planewise_ok (shapes : List Format.Shape)
    (covered : ∀ slot ∈ ds.zip ps, covers slot.2 slot.1 region = true) (i : Nat) :
    ∃ out, planewise convert region i ds shapes ps = .ok out ∧
      List.Forall₂ (fun slot q => R slot.1 slot.2.1 slot.2.2 q) (ds.zip (shapes.zip ps)) out := by
  obtain converted | ⟨slot, member, uncovered, -⟩ := planewise_cases total whole shapes i
  · exact converted
  · rw [covered slot member] at uncovered
    cases uncovered

theorem planewise_ne_outOfRange (i : Nat) :
    planewise convert region i ds shapes ps ≠ .error (.broken .outOfRange) := by
  intro outside
  obtain ⟨out, converted, -⟩ | ⟨_, _, _, j, refused⟩ := planewise_cases total whole shapes i
  · rw [outside] at converted
    cases converted
  · rw [outside] at refused
    cases refused

end

end

structure Region.Within (width height : Nat) (region : Region) : Prop where
  columns : region.left + region.width ≤ width
  rows : region.top + region.height ≤ height

structure Region.Whole (width height : Nat) (region : Region) : Prop where
  left_eq : region.left = 0
  top_eq : region.top = 0
  width_eq : region.width = width
  height_eq : region.height = height

theorem Region.Whole.within {width height : Nat} (whole : region.Whole width height) :
    region.Within width height := by
  constructor
  · rw [whole.left_eq, whole.width_eq, Nat.zero_add]
  · rw [whole.top_eq, whole.height_eq, Nat.zero_add]

/-- Is a crop rectangle, which is not empty, inside of a picture of this size? -/
structure Inside (width height : Nat) (crop : Rect) : Prop where
  left : 0 ≤ crop.x.toInt
  top : 0 ≤ crop.y.toInt
  width_pos : 1 ≤ crop.width.toInt
  height_pos : 1 ≤ crop.height.toInt
  columns : crop.x.toInt + crop.width.toInt ≤ width
  rows : crop.y.toInt + crop.height.toInt ≤ height

namespace Inside

variable {width height : Nat} {crop : Rect}

def toRegion (inside : Inside width height crop) : Region where
  left := crop.x.toInt.toNat
  top := crop.y.toInt.toNat
  width := crop.width.toInt.toNat
  height := crop.height.toInt.toNat
  width_pos := Int.lt_toNat.2 inside.width_pos
  height_pos := Int.lt_toNat.2 inside.height_pos

theorem ofRect?_eq (inside : Inside width height crop) :
    Region.ofRect? crop = some inside.toRegion :=
  dif_pos ⟨inside.width_pos, inside.height_pos⟩

theorem within (inside : Inside width height crop) : inside.toRegion.Within width height := by
  obtain ⟨left, top, width_pos, height_pos, columns, rows⟩ := inside
  constructor
  · show crop.x.toInt.toNat + crop.width.toInt.toNat ≤ width
    omega
  · show crop.y.toInt.toNat + crop.height.toInt.toNat ≤ height
    omega

end Inside

theorem toInt_toInt32 {n : UInt32} (small : n.toNat ≤ 2147483647) :
    n.toInt32.toInt = n.toNat := by
  rw [← Int32.toInt_toBitVec, UInt32.toBitVec_toInt32]
  exact BitVec.toInt_eq_toNat_of_lt (by simp; omega)

theorem ofRect?_wholeRect {w h : UInt32} (columns : 1 ≤ w.toNat ∧ w.toNat ≤ 2147483647)
    (rows : 1 ≤ h.toNat ∧ h.toNat ≤ 2147483647) :
    ∃ region, Region.ofRect? (Surface.wholeRect w h) = some region ∧
      region.Whole w.toNat h.toNat := by
  have positive : 0 < w.toInt32.toInt ∧ 0 < h.toInt32.toInt := by
    rw [toInt_toInt32 columns.2, toInt_toInt32 rows.2]
    omega
  refine ⟨_, dif_pos positive, rfl, rfl, ?_, ?_⟩
  · simp only [Surface.wholeRect, toInt_toInt32 columns.2, Int.toNat_natCast]
  · simp only [Surface.wholeRect, toInt_toInt32 rows.2, Int.toNat_natCast]

/-- A region that starts at any pixel, between two color samples or not, ends before the
color samples do. -/
theorem position_add_length_le (d : PlaneLayout) {start count total : Nat}
    (inside : start + count ≤ total) : d.position start + d.length count ≤ d.length total := by
  simp only [PlaneLayout.position, PlaneLayout.length, Format.half]
  split <;> omega

theorem layouts_le_shapes (f : SurfaceFormat) (width height : Nat) :
    List.Forall₂ (fun (d : PlaneLayout) (shape : Format.Shape) =>
      d.length height = shape.rows ∧ d.rowBytes width ≤ shape.rowBytes)
      (layouts f) (f.shapes width height) := by
  cases f <;>
    simp [layouts, SurfaceFormat.shapes, PlaneLayout.length, PlaneLayout.rowBytes,
      PlaneLayout.pixelBytes, PlaneLayout.sampleBytes, Format.half]
  omega

theorem covers_of_within {width height : Nat} (within : region.Within width height)
    (fills : Plane.Fills shape p) (rows : d.length height = shape.rows)
    (bytes : d.rowBytes width ≤ shape.rowBytes) : covers p d region = true := by
  refine covers_iff.2 ⟨?_, ?_⟩
  · rw [fills.rows_eq, ← rows]
    exact position_add_length_le d within.rows
  · rw [fills.rowBytes_eq]
    calc
      d.position region.left * d.pixelBytes + d.rowBytes region.width
        = (d.position region.left + d.length region.width) * d.pixelBytes :=
          (Nat.add_mul ..).symm
      _ ≤ d.length width * d.pixelBytes :=
          Nat.mul_le_mul_right _ (position_add_length_le d within.columns)
      _ ≤ shape.rowBytes := bytes

theorem forall₂_through {α β γ : Type} {R : α → β → Prop} {S : β → γ → Prop} {T : α → γ → Prop}
    (join : ∀ a b c, R a b → S b c → T a c) {as : List α} {bs : List β} {cs : List γ}
    (first : List.Forall₂ R as bs) (second : List.Forall₂ S bs cs) : List.Forall₂ T as cs := by
  induction first generalizing cs with
  | nil =>
    cases second
    exact .nil
  | cons related _ ih =>
    cases second with
    | cons next rest => exact .cons (join _ _ _ related next) (ih rest)

section
variable {f : SurfaceFormat} {width height : Nat} {planes : List Plane}
  (laid : f.Laid width height planes)
include laid

theorem covered_of_within (within : region.Within width height) :
    ∀ slot ∈ (layouts f).zip planes, covers slot.2 slot.1 region = true := by
  have covered : List.Forall₂ (fun d p => covers p d region = true) (layouts f) planes := by
    refine forall₂_through ?_ (layouts_le_shapes f width height) laid
    intro d shape p size fills
    exact covers_of_within within fills size.1 size.2
  rintro ⟨d, p⟩ member
  exact List.forall₂_zip covered member

end

end VideoScaler.Conversion
