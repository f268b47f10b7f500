import VideoScaler.Proofs.Conversion.Bounds

/-! What the conversion of a part of a surface depends on.

A window into a surface starts at the first pixel of a pair, along both axes, so that it has
color samples of its own. What its conversion gives is determined by the bytes of the window
alone, in all planes: padding, and the pixels around the window, are not looked at. So a
window can as well be cut out of the surface and converted as a whole.
-/

set_option autoImplicit false

namespace VideoScaler.Conversion

/-- Does a crop rectangle start at the first pixel of a pair, along both axes? -/
structure Aligned (crop : Rect) : Prop where
  left : crop.x.toInt % 2 = 0
  top : crop.y.toInt % 2 = 0

namespace Region

abbrev movedTo (region : Region) (left top : Nat) : Region :=
  { region with left, top }

structure Aligned (region : Region) : Prop where
  left : region.left % 2 = 0
  top : region.top % 2 = 0

end Region

theorem Aligned.toRegion {width height : Nat} {crop : Rect} (aligned : Aligned crop)
    (inside : Inside width height crop) : inside.toRegion.Aligned := by
  obtain ⟨left, top⟩ := aligned
  obtain ⟨x, y, -⟩ := inside
  constructor
  · show crop.x.toInt.toNat % 2 = 0
    omega
  · show crop.y.toInt.toNat % 2 = 0
    omega

/-! ### Windows with the same bytes -/

/-- Have two rows the same bytes, each from some place on? One of them may differ. -/
def RowsAgree (count free : Nat) (row : Bytes) (start : Nat) (other : Bytes) (place : Nat) : Prop :=
  ∀ i < count, i ≠ free → row[start + i]? = other[place + i]?

/-- Have two planes the same bytes, one in a region and the other at another place? The rows of
`yuy2` end with a whole pair of pixels, so at an odd width a pixel of the pair lies outside of the
region; its luma may differ. -/
def PlanesAgree (region : Region) (left top : Nat) (d : PlaneLayout) (shape : Format.Shape)
    (p q : Plane) : Prop :=
  ∀ y < shape.rows, RowsAgree shape.rowBytes (d.rowBytes region.width)
    (p.rowOf (d.position region.top + y)) (d.position region.left * d.pixelBytes)
    (q.rowOf (d.position top + y)) (d.position left * d.pixelBytes)

/-- Have all planes of two surfaces the same bytes, one in a region and the other at another
place? -/
inductive WindowsAgree (region : Region) (left top : Nat) :
    List PlaneLayout → List Format.Shape → List Plane → List Plane → Prop where
  | nil : WindowsAgree region left top [] [] [] []
  | cons {d : PlaneLayout} {shape : Format.Shape} {p q : Plane} {ds : List PlaneLayout}
      {shapes : List Format.Shape} {ps qs : List Plane}
      (first : PlanesAgree region left top d shape p q)
      (rest : WindowsAgree region left top ds shapes ps qs) :
      WindowsAgree region left top (d :: ds) (shape :: shapes) (p :: ps) (q :: qs)

variable {f source target : SurfaceFormat} {w h w' h' width height left top : Nat}
  {region : Region} {d : PlaneLayout} {shape : Format.Shape} {p q : Plane}
  {planes others : List Plane}

namespace RowsAgree

variable {count free start place i j k : Nat} {row other : Bytes}
  (agree : RowsAgree count free row start other place)
include agree

theorem narrowAt? (places : i < count ∧ i ≠ free ∧ j = start + i ∧ k = place + i) :
    Conversion.narrowAt? row j = Conversion.narrowAt? other k := by
  obtain ⟨hi, used, rfl, rfl⟩ := places
  simp only [Conversion.narrowAt?, agree i hi used]

theorem sampleAt? {wide : Bool} (hi : i + (if wide then 2 else 1) ≤ count)
    (used : i + (if wide then 2 else 1) ≤ free) :
    Conversion.sampleAt? wide row (start + i) = Conversion.sampleAt? wide other (place + i) := by
  cases wide with
  | false => exact agree.narrowAt? ⟨hi, Nat.ne_of_lt used, rfl, rfl⟩
  | true =>
    simp only [if_true] at hi used
    have low := agree i (by omega) (by omega)
    have high := agree (i + 1) (by omega) (by omega)
    simp only [Conversion.sampleAt?, pairAt?, Nat.add_assoc, low, high, if_true]

theorem tenBitsAt? (places : i + 2 ≤ count ∧ i + 2 ≤ free ∧ j = start + i ∧ k = place + i) :
    Conversion.tenBitsAt? row j = Conversion.tenBitsAt? other k := by
  obtain ⟨hi, used, rfl, rfl⟩ := places
  rw [Conversion.tenBitsAt?, agree.sampleAt? hi used]
  rfl

end RowsAgree

/-! ### Plane by plane -/

section
variable (agree : PlanesAgree region left top d shape p q)
  (rows : d.length region.height = shape.rows) (bytes : d.rowBytes region.width ≤ shape.rowBytes)
  (covered : covers p d region = true) (covers' : covers q d (region.movedTo left top) = true)
include agree rows bytes covered covers'

theorem copied_congr (target : Format.Shape) :
    copied (region.movedTo left top) d target q = copied region d target p := by
  have columns := (covers_iff.1 covered).2
  have columns' : d.position left * d.pixelBytes + d.rowBytes region.width ≤ q.rowBytes :=
    (covers_iff.1 covers').2
  unfold copied
  congr 1
  funext y x
  by_cases inside : y < d.length region.height ∧ x < d.rowBytes region.width
  · rw [if_pos inside, if_pos inside]
    have same := agree y (rows ▸ inside.1) x (by omega) (by omega)
    rw [Plane.getElem?_rowOf, Plane.getElem?_rowOf, if_pos (by omega), if_pos (by omega)] at same
    exact (Option.some.inj same).symm
  · rw [if_neg inside, if_neg inside]

theorem readSamples?_congr (whole : p.Whole) (whole' : q.Whole) :
    readSamples? (region.movedTo left top) d q = readSamples? region d p := by
  have below := (covers_iff.1 covered).1
  have below' := (covers_iff.1 covers').1
  unfold readSamples?
  congr 1
  funext y
  have hy : y.val < d.length region.height := y.isLt
  rw [whole.row? (by omega), whole'.row? (by omega)]
  simp only [Option.bind_eq_bind, Option.bind_some]
  congr 1
  funext x
  congr 1
  funext k
  -- A sample lies in the bytes of its row that the layout counts.
  have last := sample_end_le d x.isLt k.isLt
  rw [Nat.succ_mul] at last
  have place := sample_place d region.left (x * d.channels + k) 0
  have place' := sample_place d left (x * d.channels + k) 0
  simp only [Nat.add_zero] at place place'
  rw [place, place']
  refine ((agree y (rows ▸ hy)).sampleAt? ?_ ?_).symm
  · exact last.trans bytes
  · exact last

theorem convertPlane_congr (interpolation : Interpolation) (width height : Nat)
    (target : Format.Shape) (whole : p.Whole) (whole' : q.Whole) :
    convertPlane interpolation (region.movedTo left top) width height d target q =
      convertPlane interpolation region width height d target p := by
  by_cases sameSize : region.width = width ∧ region.height = height
  · have copies : convertPlane interpolation region width height = copyPlane region :=
      if_pos sameSize
    have copies' : convertPlane interpolation (region.movedTo left top) width height =
        copyPlane (region.movedTo left top) := if_pos sameSize
    rw [copies, copies', copyPlane_eq target whole covered, copyPlane_eq target whole' covers',
      copied_congr agree rows bytes covered covers']
  · have scales : convertPlane interpolation region width height =
        scalePlane interpolation region width height := if_neg sameSize
    have scales' : convertPlane interpolation (region.movedTo left top) width height =
        scalePlane interpolation (region.movedTo left top) width height := if_neg sameSize
    rw [scales, scales']
    simp only [scalePlane, readSamples?_congr agree rows bytes covered covers' whole whole']

end

theorem planes_congr {ds : List PlaneLayout} {shapes : List Format.Shape}
    (interpolation : Interpolation) (width height : Nat)
    (agree : WindowsAgree region left top ds shapes planes others)
    (sizes : List.Forall₂ (fun (d : PlaneLayout) (shape : Format.Shape) =>
      d.length region.height = shape.rows ∧ d.rowBytes region.width ≤ shape.rowBytes) ds shapes)
    (whole : ∀ p ∈ planes, p.Whole) (whole' : ∀ q ∈ others, q.Whole)
    (covered : ∀ slot ∈ ds.zip planes, covers slot.2 slot.1 region = true)
    (covers' : ∀ slot ∈ ds.zip others, covers slot.2 slot.1 (region.movedTo left top) = true) :
    List.Forall₂ (fun slot q =>
        covers q slot.1 (region.movedTo left top) = covers slot.2 slot.1 region ∧
        ∀ shape, convertPlane interpolation (region.movedTo left top) width height slot.1 shape q =
          convertPlane interpolation region width height slot.1 shape slot.2)
      (ds.zip planes) others := by
  induction agree with
  | nil => exact .nil
  | cons first rest ih =>
    cases sizes with
    | cons size sizes =>
      have here := covered _ List.mem_cons_self
      have here' := covers' _ List.mem_cons_self
      refine .cons ⟨here'.trans here.symm, fun shape => ?_⟩ ?_
      · exact convertPlane_congr first size.1 size.2 here here' interpolation width height shape
          (whole _ List.mem_cons_self) (whole' _ List.mem_cons_self)
      · apply ih sizes
        · exact fun p member => whole p (List.mem_cons_of_mem _ member)
        · exact fun q member => whole' q (List.mem_cons_of_mem _ member)
        · exact fun slot member => covered slot (List.mem_cons_of_mem _ member)
        · exact fun slot member => covers' slot (List.mem_cons_of_mem _ member)

/-! ### Through a picture -/

theorem position_add (d : PlaneLayout) {start : Nat} (even : start % 2 = 0) (n : Nat) :
    d.position (start + n) = d.position start + d.position n := by
  simp only [PlaneLayout.position]
  split <;> omega

section
variable (aligned : region.Aligned) (aligned' : (region.movedTo left top).Aligned)
include aligned aligned'

theorem PlanesAgree.row (agree : PlanesAgree region left top d shape p q) {y : Nat}
    (hy : d.position y < shape.rows) :
    RowsAgree shape.rowBytes (d.rowBytes region.width)
      (p.rowOf (d.position (region.top + y))) (d.position region.left * d.pixelBytes)
      (q.rowOf (d.position (top + y))) (d.position left * d.pixelBytes) := by
  rw [position_add d aligned.top, position_add d aligned'.top]
  exact agree (d.position y) hy

theorem readPixel?_congr {y x : Nat}
    (agree : WindowsAgree region left top (layouts f) (f.shapes region.width region.height) planes
      others)
    (hy : y < region.height) (hx : x < region.width) :
    readPixel? f (rowsOf f others (top + y)) (left + x) =
      readPixel? f (rowsOf f planes (region.top + y)) (region.left + x) := by
  have even := aligned.left
  have even' : left % 2 = 0 := aligned'.left
  have pair := Format.div_two_lt_half hx
  have half := Format.div_two_lt_half hy
  simp only [layouts, SurfaceFormat.shapes] at agree
  -- The cases differ in where the samples of a pixel lie; they lie there in both windows.
  cases f with
  | unknown => rfl
  | nv12 =>
    obtain _ | ⟨luma, _ | ⟨chroma, _ | _⟩⟩ := agree
    have luma := luma.row aligned aligned' hy
    have chroma := chroma.row aligned aligned' half
    simp only [PlaneLayout.rowBytes, PlaneLayout.length, PlaneLayout.pixelBytes,
      PlaneLayout.sampleBytes, PlaneLayout.position, Bool.false_eq_true, if_false, if_true,
      Nat.mul_one] at luma chroma
    have first : narrowAt? _ (region.left + x) = narrowAt? _ (left + x) :=
      luma.narrowAt? (i := x) (by omega)
    have second : narrowAt? _ ((region.left + x) / 2 * 2) = narrowAt? _ ((left + x) / 2 * 2) :=
      chroma.narrowAt? (i := x / 2 * 2) (by omega)
    have third : narrowAt? _ ((region.left + x) / 2 * 2 + 1) =
        narrowAt? _ ((left + x) / 2 * 2 + 1) :=
      chroma.narrowAt? (i := x / 2 * 2 + 1) (by omega)
    simp [rowsOf, layouts, readPixel?, PlaneLayout.position, first, second, third]
  | p010 =>
    obtain _ | ⟨luma, _ | ⟨chroma, _ | _⟩⟩ := agree
    have luma := luma.row aligned aligned' hy
    have chroma := chroma.row aligned aligned' half
    simp only [PlaneLayout.rowBytes, PlaneLayout.length, PlaneLayout.pixelBytes,
      PlaneLayout.sampleBytes, PlaneLayout.position, Bool.false_eq_true, if_false, if_true,
      Nat.one_mul] at luma chroma
    have first : tenBitsAt? _ ((region.left + x) * 2) = tenBitsAt? _ ((left + x) * 2) :=
      luma.tenBitsAt? (i := x * 2) (by omega)
    have second : tenBitsAt? _ ((region.left + x) / 2 * 2 * 2) =
        tenBitsAt? _ ((left + x) / 2 * 2 * 2) :=
      chroma.tenBitsAt? (i := x / 2 * 2 * 2) (by omega)
    have third : tenBitsAt? _ (((region.left + x) / 2 * 2 + 1) * 2) =
        tenBitsAt? _ (((left + x) / 2 * 2 + 1) * 2) :=
      chroma.tenBitsAt? (i := (x / 2 * 2 + 1) * 2) (by omega)
    simp [rowsOf, layouts, readPixel?, PlaneLayout.position, first, second, third]
  | yuv420p | yv12 =>
    obtain _ | ⟨luma, _ | ⟨u, _ | ⟨v, _ | _⟩⟩⟩ := agree
    have luma := luma.row aligned aligned' hy
    have u := u.row aligned aligned' half
    have v := v.row aligned aligned' half
    simp only [PlaneLayout.rowBytes, PlaneLayout.length, PlaneLayout.pixelBytes,
      PlaneLayout.sampleBytes, PlaneLayout.position, Bool.false_eq_true, if_false, if_true,
      Nat.mul_one] at luma u v
    have first : narrowAt? _ (region.left + x) = narrowAt? _ (left + x) :=
      luma.narrowAt? (i := x) (by omega)
    have second : narrowAt? _ ((region.left + x) / 2) = narrowAt? _ ((left + x) / 2) :=
      u.narrowAt? (i := x / 2) (by omega)
    have third : narrowAt? _ ((region.left + x) / 2) = narrowAt? _ ((left + x) / 2) :=
      v.narrowAt? (i := x / 2) (by omega)
    simp [rowsOf, layouts, readPixel?, PlaneLayout.position, first, second, third]
  | gray8 =>
    obtain _ | ⟨luma, _ | _⟩ := agree
    have luma := luma.row aligned aligned' hy
    simp only [PlaneLayout.rowBytes, PlaneLayout.length, PlaneLayout.pixelBytes,
      PlaneLayout.sampleBytes, PlaneLayout.position, Bool.false_eq_true, if_false] at luma
    have first : narrowAt? _ (region.left + x) = narrowAt? _ (left + x) :=
      luma.narrowAt? (i := x) (by omega)
    simp [rowsOf, layouts, readPixel?, PlaneLayout.position, first]
  | yuy2 =>
    obtain _ | ⟨row, _ | _⟩ := agree
    have row := row.row aligned aligned' hy
    simp only [PlaneLayout.rowBytes, PlaneLayout.length, PlaneLayout.pixelBytes,
      PlaneLayout.sampleBytes, PlaneLayout.position, Bool.false_eq_true, if_false] at row
    have first : narrowAt? _ ((region.left + x) / 2 * 4 + (region.left + x) % 2 * 2) =
        narrowAt? _ ((left + x) / 2 * 4 + (left + x) % 2 * 2) :=
      row.narrowAt? (i := x / 2 * 4 + x % 2 * 2) (by omega)
    have second : narrowAt? _ ((region.left + x) / 2 * 4 + 1) =
        narrowAt? _ ((left + x) / 2 * 4 + 1) :=
      row.narrowAt? (i := x / 2 * 4 + 1) (by omega)
    have third : narrowAt? _ ((region.left + x) / 2 * 4 + 3) =
        narrowAt? _ ((left + x) / 2 * 4 + 3) :=
      row.narrowAt? (i := x / 2 * 4 + 3) (by omega)
    simp [rowsOf, layouts, readPixel?, PlaneLayout.position, first, second, third]
  | bgra | argb | rgba =>
    obtain _ | ⟨row, _ | _⟩ := agree
    have row := row.row aligned aligned' hy
    simp only [PlaneLayout.rowBytes, PlaneLayout.length, PlaneLayout.pixelBytes,
      PlaneLayout.sampleBytes, PlaneLayout.position, Bool.false_eq_true, if_false] at row
    have first : narrowAt? _ ((region.left + x) * 4) = narrowAt? _ ((left + x) * 4) :=
      row.narrowAt? (i := x * 4) (by omega)
    have later (i : Nat) (hi : i < 4) :
        narrowAt? _ ((region.left + x) * 4 + i) = narrowAt? _ ((left + x) * 4 + i) :=
      row.narrowAt? (i := x * 4 + i) (by omega)
    simp [rowsOf, layouts, readPixel?, PlaneLayout.position, first, later 1 (by decide),
      later 2 (by decide), later 3 (by decide)]

end

section
variable (laid : f.Laid w h planes) (laid' : f.Laid w' h' others) (known : f ≠ .unknown)
  (within : region.Within w h) (within' : (region.movedTo left top).Within w' h')
  (aligned : region.Aligned) (aligned' : (region.movedTo left top).Aligned)
  (agree : WindowsAgree region left top (layouts f) (f.shapes region.width region.height) planes
    others)
include laid laid' known within within' aligned aligned' agree

theorem read_congr :
    Picture.read others f (region.movedTo left top) = Picture.read planes f region := by
  have above : ¬h < region.top + region.height := Nat.not_lt.2 within.rows
  have above' : ¬h' < (region.movedTo left top).top + (region.movedTo left top).height :=
    Nat.not_lt.2 within'.rows
  have pixels : pixels? others f (region.movedTo left top) = pixels? planes f region := by
    rw [pixels?_eq laid known within.rows, pixels?_eq laid' known within'.rows]
    congr 1
    funext y
    congr 1
    funext x
    exact readPixel?_congr aligned aligned' agree y.isLt x.isLt
  rw [read_laid laid known, read_laid laid' known, if_neg above, if_neg above', pixels]

/-! ### Both ways -/

theorem convertRegion_congr (parameters : Parameters) (wpos : 0 < width) (hpos : 0 < height) :
    convertRegion parameters others f (region.movedTo left top) target width height wpos hpos =
      convertRegion parameters planes f region target width height wpos hpos := by
  by_cases keeps : KeepsLayout f target region width height
  · have keeps' : KeepsLayout f target (region.movedTo left top) width height := keeps
    rw [convertRegion_keeping laid known wpos hpos keeps,
      convertRegion_keeping laid' known wpos hpos keeps']
    have sizes := layouts_le_shapes f region.width region.height
    refine planewise_congr ?_ (f.shapes width height) 0
    exact planes_congr parameters.interpolation width height agree sizes laid.whole laid'.whole
      (covered_of_within laid within) (covered_of_within laid' within')
  · have changes : ¬KeepsLayout f target (region.movedTo left top) width height := keeps
    rw [convertRegion_not_keeping wpos hpos keeps, convertRegion_not_keeping wpos hpos changes]
    unfold throughPicture
    rw [read_congr laid laid' known within within' aligned aligned' agree]

end

/-! ### Cutting a window out -/

/-- The part of a surface inside of a region, as a surface of its own. -/
def windowPlanes (f : SurfaceFormat) (region : Region) (planes : List Plane) : List Plane :=
  List.zipWith (fun slot p => Plane.build slot.2 fun y x =>
      p.byteAt (slot.1.position region.top + y)
        (slot.1.position region.left * slot.1.pixelBytes + x))
    ((layouts f).zip (f.shapes region.width region.height)) planes

theorem window_shapes_le (f : SurfaceFormat) {region : Region} (aligned : region.Aligned)
    (within : region.Within w h) :
    List.Forall₂ (fun slot (shape : Format.Shape) =>
        slot.1.position region.left * slot.1.pixelBytes + slot.2.rowBytes ≤ shape.rowBytes)
      ((layouts f).zip (f.shapes region.width region.height)) (f.shapes w h) := by
  have even := aligned.left
  have columns := within.columns
  cases f <;>
    simp [layouts, SurfaceFormat.shapes, PlaneLayout.position, PlaneLayout.pixelBytes,
      PlaneLayout.sampleBytes, Format.half] <;>
    omega

theorem windowPlanes_laid (laid : f.Laid w h planes) (region : Region) :
    f.Laid region.width region.height (windowPlanes f region planes) := by
  have slots : (layouts f).length = (f.shapes region.width region.height).length :=
    length_layouts ..
  have count : planes.length = (layouts f).length := by
    rw [laid.length_eq, length_layouts]
  refine List.forall₂_iff_get.2 ⟨?_, fun i hi hj => ?_⟩
  · simp [windowPlanes, count, slots]
  · simpa [windowPlanes] using Plane.fills_build _ _

theorem windowsAgree_zipWith {ds : List PlaneLayout} {shapes : List Format.Shape}
    (count : ds.length = shapes.length)
    (room : List.Forall₂ (fun slot p =>
      slot.1.position region.left * slot.1.pixelBytes + slot.2.rowBytes ≤ p.rowBytes)
      (ds.zip shapes) planes) :
    WindowsAgree region 0 0 ds shapes planes
      (List.zipWith (fun slot p => Plane.build slot.2 fun y x =>
          p.byteAt (slot.1.position region.top + y)
            (slot.1.position region.left * slot.1.pixelBytes + x))
        (ds.zip shapes) planes) := by
  induction ds generalizing shapes planes with
  | nil =>
    cases shapes with
    | nil =>
      cases room
      exact .nil
    | cons shape shapes => cases count
  | cons d ds ih =>
    cases shapes with
    | nil => cases count
    | cons shape shapes =>
      cases room with
      | cons first rest =>
        refine .cons ?_ (ih (Nat.succ.inj count) rest)
        intro y hy x hx _
        have inPlane := Nat.lt_of_lt_of_le (Nat.add_lt_add_left hx _) first
        have inWindow (byte : Nat → Nat → UInt8) : x < (Plane.build shape byte).rowBytes := hx
        simp only [d.position_zero, Nat.zero_add, Nat.zero_mul]
        rw [Plane.getElem?_rowOf, Plane.getElem?_rowOf, if_pos inPlane, if_pos (inWindow _),
          Plane.byteAt_build _ hy hx]

theorem windowPlanes_agree (laid : f.Laid w h planes) (within : region.Within w h)
    (aligned : region.Aligned) :
    WindowsAgree region 0 0 (layouts f) (f.shapes region.width region.height) planes
      (windowPlanes f region planes) := by
  refine windowsAgree_zipWith (length_layouts ..) ?_
  refine forall₂_through ?_ (window_shapes_le f aligned within) laid
  intro slot shape p fits fills
  rwa [fills.rowBytes_eq]

section
variable {crop moved : Rect} (parameters : Parameters) (laid : source.Laid w h planes)
  (known : source ≠ .unknown) (inside : Inside w h crop) (aligned : Aligned crop)
include laid known aligned

theorem convert_congr (laid' : source.Laid w' h' others) (inside' : Inside w' h' moved)
    (aligned' : Aligned moved) (sameWidth : moved.width = crop.width)
    (sameHeight : moved.height = crop.height)
    (agree : WindowsAgree inside.toRegion inside'.toRegion.left inside'.toRegion.top
      (layouts source) (source.shapes inside.toRegion.width inside.toRegion.height) planes others) :
    convert parameters others source moved target width height =
      convert parameters planes source crop target width height := by
  have move : inside'.toRegion =
      inside.toRegion.movedTo inside'.toRegion.left inside'.toRegion.top := by
    simp only [Inside.toRegion, Region.movedTo, sameWidth, sameHeight]
  have within' := inside'.within
  have starts' := aligned'.toRegion inside'
  rw [move] at within' starts'
  simp only [convert, inside.ofRect?_eq, inside'.ofRect?_eq]
  split
  case isTrue size =>
    rw [move]
    exact convertRegion_congr laid laid' known inside.within within' (aligned.toRegion inside)
      starts' agree parameters size.1 size.2
  case isFalse => rfl

/-- Converting a window gives the same as converting the surface that holds just the window, and
the same for every other surface, of any size, that has the bytes of the window somewhere. -/
theorem convert_window :
    convert parameters planes source crop target width height =
        convert parameters (windowPlanes source inside.toRegion planes) source
          ⟨0, 0, crop.width, crop.height⟩ target width height ∧
      ∀ {w' h' : Nat} {others : List Plane} {moved : Rect} (inside' : Inside w' h' moved),
        source.Laid w' h' others → Aligned moved → moved.width = crop.width →
        moved.height = crop.height →
        WindowsAgree inside.toRegion inside'.toRegion.left inside'.toRegion.top (layouts source)
          (source.shapes inside.toRegion.width inside.toRegion.height) planes others →
        convert parameters planes source crop target width height =
          convert parameters others source moved target width height := by
  constructor
  · have corner : Inside inside.toRegion.width inside.toRegion.height
        ⟨0, 0, crop.width, crop.height⟩ := by
      obtain ⟨-, -, width_pos, height_pos, -, -⟩ := inside
      have zero : 0 ≤ (0 : Int32).toInt := by decide
      refine ⟨zero, zero, width_pos, height_pos, ?_, ?_⟩
      · show 0 + crop.width.toInt ≤ crop.width.toInt.toNat
        omega
      · show 0 + crop.height.toInt ≤ crop.height.toInt.toNat
        omega
    have agree := windowPlanes_agree laid inside.within (aligned.toRegion inside)
    exact (convert_congr parameters laid known inside aligned
      (windowPlanes_laid laid inside.toRegion) corner ⟨rfl, rfl⟩ rfl rfl agree).symm
  · intro w' h' others moved inside' laid' aligned' sameWidth sameHeight agree
    exact (convert_congr parameters laid known inside aligned laid' inside' aligned' sameWidth
      sameHeight agree).symm

end

/-- The last column of two surfaces of different sizes, which differ in all others. -/
theorem convert_last_column_of_nv12 :
    let planes := [Plane.packed #[1, 2, 3] 3 1, Plane.packed #[4, 5, 6, 7] 4 1]
    let others := [Plane.packed #[8, 8, 8, 8, 3] 5 1, Plane.packed #[9, 9, 9, 9, 6, 7] 6 1]
    Inside 3 1 ⟨2, 0, 1, 1⟩ ∧ Inside 5 1 ⟨4, 0, 1, 1⟩ ∧
      convert {} planes .nv12 ⟨2, 0, 1, 1⟩ .bgra 2 2 =
        convert {} others .nv12 ⟨4, 0, 1, 1⟩ .bgra 2 2 := by
  intro planes others
  have laid : SurfaceFormat.nv12.Laid 3 1 planes := by decide
  have laid' : SurfaceFormat.nv12.Laid 5 1 others := by decide
  have inside : Inside 3 1 ⟨2, 0, 1, 1⟩ := by
    constructor <;> decide
  have inside' : Inside 5 1 ⟨4, 0, 1, 1⟩ := by
    constructor <;> decide
  have agree : WindowsAgree ⟨2, 0, 1, 1, by decide, by decide⟩ 4 0 (layouts .nv12)
      (SurfaceFormat.nv12.shapes 1 1) planes others := by
    refine .cons ?_ (.cons ?_ .nil)
    · unfold PlanesAgree RowsAgree
      decide
    · unfold PlanesAgree RowsAgree
      decide
  refine ⟨inside, inside', ?_⟩
  exact (convert_window {} laid (by decide) inside ⟨by decide, by decide⟩).2 inside' laid'
    ⟨by decide, by decide⟩ rfl rfl agree

end VideoScaler.Conversion
