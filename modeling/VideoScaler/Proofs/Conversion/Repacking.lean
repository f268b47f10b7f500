import VideoScaler.Proofs.Conversion.Exact
import VideoScaler.Proofs.Conversion.Lossless

/-! Layouts that store each other's samples.

What is read from a surface whose samples are bytes is a picture of bytes, in which the pixels
of a square share their color samples. Such a picture comes back from every layout that has a
place for all of its samples, and its own layout gets the bytes that were read. So a surface can
be stored in another layout and restored, and nothing is lost at edges that cut a square off.
-/

set_option autoImplicit false

namespace VideoScaler.Conversion

/-! ### Layouts of bytes -/

/-- The samples that a surface has for a pixel, in the layouts whose samples are bytes. -/
def pixelBytes (f : SurfaceFormat) (planes : List Plane) : PixelBytes := fun y x =>
  match f, planes with
  | .nv12, [luma, chroma] =>
    #v[luma.byteAt y x, chroma.byteAt (y / 2) (x / 2 * 2), chroma.byteAt (y / 2) (x / 2 * 2 + 1),
      255]
  | .yuv420p, [luma, u, v] | .yv12, [luma, v, u] =>
    #v[luma.byteAt y x, u.byteAt (y / 2) (x / 2), v.byteAt (y / 2) (x / 2), 255]
  | .gray8, [luma] => #v[luma.byteAt y x, 128, 128, 255]
  | .yuy2, [row] =>
    #v[row.byteAt y (x / 2 * 4 + x % 2 * 2), row.byteAt y (x / 2 * 4 + 1),
      row.byteAt y (x / 2 * 4 + 3), 255]
  | .bgra, [row] =>
    #v[row.byteAt y (x * 4 + 2), row.byteAt y (x * 4 + 1), row.byteAt y (x * 4),
      row.byteAt y (x * 4 + 3)]
  | .rgba, [row] =>
    #v[row.byteAt y (x * 4), row.byteAt y (x * 4 + 1), row.byteAt y (x * 4 + 2),
      row.byteAt y (x * 4 + 3)]
  | .argb, [row] =>
    #v[row.byteAt y (x * 4 + 1), row.byteAt y (x * 4 + 2), row.byteAt y (x * 4 + 3),
      row.byteAt y (x * 4)]
  | _, _ => #v[0, 0, 0, 255]

variable {f source target : SurfaceFormat} {width height x y : Nat} {planes : List Plane}
  {region : Region} {bytes : PixelBytes}

theorem readPixel?_bytes (laid : f.Laid width height planes) (known : f ≠ .unknown)
    (narrow : f ≠ .p010) (hx : x < width) :
    readPixel? f (rowsOf f planes y) x =
      some ((pixelBytes f planes y x).map UInt8.toFloat32) := by
  have pair := Format.div_two_lt_half hx
  simp only [SurfaceFormat.Laid] at laid
  cases f with
  | unknown => exact absurd rfl known
  | p010 => exact absurd rfl narrow
  | nv12 =>
    simp only [SurfaceFormat.shapes, List.forall₂_cons_left_iff, List.forall₂_nil_left_iff] at laid
    obtain ⟨luma, _, fl, ⟨chroma, _, fc, rfl, rfl⟩, rfl⟩ := laid
    simp only [rowsOf, layouts, List.zipWith_cons_cons, List.zipWith_nil_right, readPixel?,
      narrowAt?_rowOf, fl.rowBytes_eq, fc.rowBytes_eq]
    rw [if_pos (by omega), if_pos (by omega), if_pos (by omega), ← toFloat32_full]
    simp [pixelBytes, PlaneLayout.position]
  | yuv420p | yv12 =>
    simp only [SurfaceFormat.shapes, List.forall₂_cons_left_iff, List.forall₂_nil_left_iff] at laid
    obtain ⟨luma, _, fl, ⟨u, _, fu, ⟨v, _, fv, rfl, rfl⟩, rfl⟩, rfl⟩ := laid
    simp only [rowsOf, layouts, List.zipWith_cons_cons, List.zipWith_nil_right, readPixel?,
      narrowAt?_rowOf, fl.rowBytes_eq, fu.rowBytes_eq, fv.rowBytes_eq]
    rw [if_pos (by omega), if_pos (by omega), if_pos (by omega), ← toFloat32_full]
    simp [pixelBytes, PlaneLayout.position]
  | gray8 =>
    simp only [SurfaceFormat.shapes, List.forall₂_cons_left_iff, List.forall₂_nil_left_iff] at laid
    obtain ⟨plane, _, fills, rfl, rfl⟩ := laid
    simp only [rowsOf, layouts, List.zipWith_cons_cons, List.zipWith_nil_right, readPixel?,
      narrowAt?_rowOf, fills.rowBytes_eq]
    rw [if_pos (by omega), ← toFloat32_full, ← toFloat32_neutral]
    simp [pixelBytes, PlaneLayout.position]
  | yuy2 =>
    simp only [SurfaceFormat.shapes, List.forall₂_cons_left_iff, List.forall₂_nil_left_iff] at laid
    obtain ⟨plane, _, fills, rfl, rfl⟩ := laid
    simp only [rowsOf, layouts, List.zipWith_cons_cons, List.zipWith_nil_right, readPixel?,
      narrowAt?_rowOf, fills.rowBytes_eq]
    rw [if_pos (by omega), if_pos (by omega), if_pos (by omega), ← toFloat32_full]
    simp [pixelBytes, PlaneLayout.position]
  | bgra | argb | rgba =>
    simp only [SurfaceFormat.shapes, List.forall₂_cons_left_iff, List.forall₂_nil_left_iff] at laid
    obtain ⟨plane, _, fills, rfl, rfl⟩ := laid
    simp only [rowsOf, layouts, List.zipWith_cons_cons, List.zipWith_nil_right, readPixel?,
      narrowAt?_rowOf, fills.rowBytes_eq]
    rw [if_pos (by omega), if_pos (by omega), if_pos (by omega), if_pos (by omega)]
    simp [pixelBytes, PlaneLayout.position]

theorem byteAt_built {n m : Nat} (byte : Nat → Nat → UInt8) (hy : y < m) (hx : x < n) :
    (Plane.build ⟨n, m⟩ byte).byteAt y x = byte y x :=
  Plane.byteAt_build byte hy hx

theorem tenBitsAt?_built {n m i : Nat} {byte : Nat → Nat → UInt8} {b : UInt8} (hy : y < m)
    (hi : i + 1 < n) (even : i % 2 = 0)
    (stored : ∀ c, c / 2 = i / 2 → byte y c = halfOf (toTenBits b.toFloat32) (c % 2 = 1)) :
    tenBitsAt? ((Plane.build ⟨n, m⟩ byte).rowOf y) i = some b.toFloat32 := by
  have inside : i + 1 < (Plane.build ⟨n, m⟩ byte).rowBytes := hi
  have first : ¬i % 2 = 1 := by omega
  have second : (i + 1) % 2 = 1 := by omega
  rw [tenBitsAt?_rowOf, if_pos inside, byteAt_built _ hy (by omega), byteAt_built _ hy hi,
    stored i rfl, stored (i + 1) (by omega)]
  simp only [first, second, halfOf, decide_false, decide_true, Bool.false_eq_true, if_false,
    if_true, Number.ofTwoBytes_lowByte_highByte, toTenBits_div]

section
variable (rgb : Bool) (hx : x < region.width) (hy : y < region.height)
include hx hy

theorem byte_nv12 (subsampled : bytes.Subsampled) {c r : Nat} (row : y / 2 = r)
    (place : c / 2 = x / 2) :
    (Picture.ofBytes region rgb bytes).byte .nv12 1 r c =
      (bytes y x).get (if c % 2 = 0 then Channel.second else Channel.third) := by
  refine Picture.toByte_average subsampled ?_ hx hy place.symm rgb row
  split <;> decide

theorem byte_yuy2 :
    (Picture.ofBytes region rgb bytes).byte .yuy2 0 y (x / 2 * 4 + x % 2 * 2) =
      (bytes y x).get Channel.first := by
  rcases Nat.mod_two_eq_zero_or_one x with even | odd
  · have first : (x / 2 * 4 + x % 2 * 2) % 4 = 0 := by omega
    have place : (x / 2 * 4 + x % 2 * 2) / 4 * 2 = x := by omega
    simp only [Picture.byte, first, place]
    exact Picture.toByte_sample rgb bytes _ hx hy
  · have third : (x / 2 * 4 + x % 2 * 2) % 4 = 2 := by omega
    have place : (x / 2 * 4 + x % 2 * 2) / 4 * 2 + 1 = x := by omega
    simp only [Picture.byte, third, place]
    exact Picture.toByte_sample rgb bytes _ hx hy

theorem byte_of_isRgb (colors : f.isRgb = true) {i : Nat} (hi : i < 4) :
    (Picture.ofBytes region rgb bytes).byte f 0 y (x * 4 + i) =
      (bytes y x).get (Picture.byteChannel f i) := by
  have pixel : (x * 4 + i) / 4 = x := by omega
  have sample : (x * 4 + i) % 4 = i := by omega
  cases f with
  | bgra | argb | rgba =>
    simp only [Picture.byte, pixel, sample]
    exact Picture.toByte_sample rgb bytes _ hx hy
  | _ => cases colors

theorem pixelBytes_written (known : f ≠ .unknown) (narrow : f ≠ .p010) (colored : f ≠ .gray8)
    (color : f.isRgb = false → bytes.Subsampled) :
    pixelBytes f ((Picture.ofBytes region rgb bytes).written f) y x = bytes y x := by
  have pair := Format.div_two_lt_half hx
  have half := Format.div_two_lt_half hy
  have second : Channel.second ≠ Channel.first := by decide
  have third : Channel.third ≠ Channel.first := by decide
  have sample (colors : f.isRgb = true) (i : Nat) (hi : i < 4) :
      (Plane.build ⟨region.width * 4, region.height⟩
        ((Picture.ofBytes region rgb bytes).byte f 0)).byteAt y (x * 4 + i) =
      (bytes y x).get (Picture.byteChannel f i) := by
    rw [byteAt_built _ hy (by omega)]
    exact byte_of_isRgb rgb hx hy colors hi
  simp only [Picture.written, SurfaceFormat.shapes, Picture.width_ofBytes, Picture.height_ofBytes]
  -- A case for each order of the samples: a byte is read where it was written. A color sample
  -- stands for a whole square or pair, so it is found from any pixel of it.
  cases f with
  | unknown => exact absurd rfl known
  | p010 => exact absurd rfl narrow
  | gray8 => exact absurd rfl colored
  | nv12 =>
    have subsampled := color rfl
    have even : x / 2 * 2 < Format.half region.width * 2 := by omega
    have odd : x / 2 * 2 + 1 < Format.half region.width * 2 := by omega
    have u := byte_nv12 rgb hx hy subsampled rfl (c := x / 2 * 2) (by omega)
    have v := byte_nv12 rgb hx hy subsampled rfl (c := x / 2 * 2 + 1) (by omega)
    rw [if_pos (by omega)] at u
    rw [if_neg (by omega)] at v
    simp only [List.mapIdx_cons, List.mapIdx_nil, Nat.zero_add, pixelBytes, byteAt_built _ hy hx,
      byteAt_built _ half even, byteAt_built _ half odd]
    exact pixel_eq (Picture.toByte_sample rgb bytes _ hx hy) u v (subsampled.solid y x).symm
  | yuv420p | yv12 =>
    have subsampled := color rfl
    simp only [List.mapIdx_cons, List.mapIdx_nil, Nat.zero_add, Nat.reduceAdd, pixelBytes,
      byteAt_built _ hy hx, byteAt_built _ half pair]
    refine pixel_eq (Picture.toByte_sample rgb bytes _ hx hy) ?_ ?_ (subsampled.solid y x).symm
    · exact Picture.toByte_average subsampled second hx hy rfl rgb rfl
    · exact Picture.toByte_average subsampled third hx hy rfl rgb rfl
  | yuy2 =>
    have subsampled := color rfl
    have luma : x / 2 * 4 + x % 2 * 2 < Format.half region.width * 4 := by omega
    have even : x / 2 * 4 + 1 < Format.half region.width * 4 := by omega
    have odd : x / 2 * 4 + 3 < Format.half region.width * 4 := by omega
    simp only [List.mapIdx_cons, List.mapIdx_nil, pixelBytes, byteAt_built _ hy luma,
      byteAt_built _ hy even, byteAt_built _ hy odd]
    refine pixel_eq (byte_yuy2 rgb hx hy) ?_ ?_ (subsampled.solid y x).symm
    · have sample : (x / 2 * 4 + 1) % 4 = 1 := by omega
      simp only [Picture.byte, sample]
      exact Picture.toByte_pairAverage subsampled second hx hy (by omega) rgb
    · have sample : (x / 2 * 4 + 3) % 4 = 3 := by omega
      simp only [Picture.byte, sample]
      exact Picture.toByte_pairAverage subsampled third hx hy (by omega) rgb
  | bgra =>
    simp only [List.mapIdx_cons, List.mapIdx_nil, pixelBytes]
    exact pixel_eq (sample rfl 2 (by decide)) (sample rfl 1 (by decide)) (sample rfl 0 (by decide))
      (sample rfl 3 (by decide))
  | rgba =>
    simp only [List.mapIdx_cons, List.mapIdx_nil, pixelBytes]
    exact pixel_eq (sample rfl 0 (by decide)) (sample rfl 1 (by decide)) (sample rfl 2 (by decide))
      (sample rfl 3 (by decide))
  | argb =>
    simp only [List.mapIdx_cons, List.mapIdx_nil, pixelBytes]
    exact pixel_eq (sample rfl 1 (by decide)) (sample rfl 2 (by decide)) (sample rfl 3 (by decide))
      (sample rfl 0 (by decide))

theorem byte_p010_luma {c : Nat} (place : c / 2 = x) :
    (Picture.ofBytes region rgb bytes).byte .p010 0 y c =
      halfOf (toTenBits ((bytes y x).get Channel.first).toFloat32) (c % 2 = 1) := by
  subst place
  simp only [Picture.byte, Picture.sample_inside rgb bytes _ hx hy]

theorem byte_p010_color (subsampled : bytes.Subsampled) {c : Nat} (place : c / 4 = x / 2) :
    (Picture.ofBytes region rgb bytes).byte .p010 1 (y / 2) c =
      halfOf (toTenBits ((bytes y x).get
        (if c / 2 % 2 = 0 then Channel.second else Channel.third)).toFloat32) (c % 2 = 1) := by
  have color : (if c / 2 % 2 = 0 then Channel.second else Channel.third) ≠ Channel.first := by
    split <;> decide
  simp only [Picture.byte, Picture.average_ofBytes subsampled color hx hy place.symm rgb rfl]

theorem readPixel?_p010 (subsampled : bytes.Subsampled) :
    readPixel? .p010 (rowsOf .p010 ((Picture.ofBytes region rgb bytes).written .p010) y) x =
      some ((bytes y x).map UInt8.toFloat32) := by
  have half := Format.div_two_lt_half hy
  have pair := Format.div_two_lt_half hx
  have luma : tenBitsAt? ((Plane.build ⟨region.width * 2, region.height⟩
      ((Picture.ofBytes region rgb bytes).byte .p010 0)).rowOf y) (x * 2) =
        some ((bytes y x).get Channel.first).toFloat32 := by
    refine tenBitsAt?_built hy (by omega) (by omega) fun c place => ?_
    exact byte_p010_luma rgb hx hy (by omega)
  have u : tenBitsAt? ((Plane.build ⟨Format.half region.width * 4, Format.half region.height⟩
      ((Picture.ofBytes region rgb bytes).byte .p010 1)).rowOf (y / 2)) (x / 2 * 2 * 2) =
        some ((bytes y x).get Channel.second).toFloat32 := by
    refine tenBitsAt?_built half (by omega) (by omega) fun c place => ?_
    rw [byte_p010_color rgb hx hy subsampled (by omega), if_pos (by omega)]
  have v : tenBitsAt? ((Plane.build ⟨Format.half region.width * 4, Format.half region.height⟩
      ((Picture.ofBytes region rgb bytes).byte .p010 1)).rowOf (y / 2)) ((x / 2 * 2 + 1) * 2) =
        some ((bytes y x).get Channel.third).toFloat32 := by
    refine tenBitsAt?_built half (by omega) (by omega) fun c place => ?_
    rw [byte_p010_color rgb hx hy subsampled (by omega), if_neg (by omega)]
  have pixel : #v[(bytes y x).get Channel.first, (bytes y x).get Channel.second,
      (bytes y x).get Channel.third, 255] = bytes y x :=
    pixel_eq rfl rfl rfl (subsampled.solid y x).symm
  simp only [Picture.written, SurfaceFormat.shapes, Picture.width_ofBytes, Picture.height_ofBytes,
    List.mapIdx_cons, List.mapIdx_nil, Nat.zero_add, rowsOf, layouts, List.zipWith_cons_cons,
    List.zipWith_nil_right, PlaneLayout.position, Bool.false_eq_true, if_false, if_true, readPixel?,
    luma, u, v, Option.bind_eq_bind, Option.bind_some, Option.pure_def]
  rw [← toFloat32_full, ← map_pixel, pixel]

end

/-! ### Reading and writing -/

theorem get_color (a a' b c d : UInt8) {k : Channel} (color : k ≠ Channel.first) :
    #v[a, b, c, d].get k = #v[a', b, c, d].get k := by
  match k with
  | 0 => exact absurd rfl color
  | 1 | 2 | 3 => rfl

theorem pixelBytes_subsampled (laid : f.Laid width height planes) (known : f ≠ .unknown)
    (narrow : f ≠ .p010) (squares : f ≠ .yuy2) (luma : f.isRgb = false) :
    (pixelBytes f planes).Subsampled := by
  simp only [SurfaceFormat.Laid] at laid
  cases f with
  | unknown => exact absurd rfl known
  | p010 => exact absurd rfl narrow
  | yuy2 => exact absurd rfl squares
  | bgra | argb | rgba => cases luma
  | nv12 =>
    simp only [SurfaceFormat.shapes, List.forall₂_cons_left_iff, List.forall₂_nil_left_iff] at laid
    obtain ⟨luma, _, -, ⟨chroma, _, -, rfl, rfl⟩, rfl⟩ := laid
    constructor
    · intro y y' x x' k color row column
      simp only [pixelBytes, row, column]
      exact get_color _ _ _ _ _ color
    · intro y x
      rfl
  | yuv420p | yv12 =>
    simp only [SurfaceFormat.shapes, List.forall₂_cons_left_iff, List.forall₂_nil_left_iff] at laid
    obtain ⟨luma, _, -, ⟨u, _, -, ⟨v, _, -, rfl, rfl⟩, rfl⟩, rfl⟩ := laid
    constructor
    · intro y y' x x' k color row column
      simp only [pixelBytes, row, column]
      exact get_color _ _ _ _ _ color
    · intro y x
      rfl
  | gray8 =>
    simp only [SurfaceFormat.shapes, List.forall₂_cons_left_iff, List.forall₂_nil_left_iff] at laid
    obtain ⟨plane, _, -, rfl, rfl⟩ := laid
    constructor
    · intro y y' x x' k color row column
      exact get_color _ _ _ _ _ color
    · intro y x
      rfl

theorem read_eq_ofBytes (laid : f.Laid region.width region.height planes) (known : f ≠ .unknown)
    (whole : region.Whole region.width region.height)
    (pixel : ∀ y < region.height, ∀ x < region.width,
      readPixel? f (rowsOf f planes y) x = some ((bytes y x).map UInt8.toFloat32)) :
    Picture.read planes f region = .ok (Picture.ofBytes region f.isRgb bytes) := by
  have pixels : pixels? planes f region =
      some (Picture.ofBytes region f.isRgb bytes).pixels := by
    rw [pixels?_eq laid known whole.within.rows, whole.left_eq, whole.top_eq]
    refine ofFnM_eq_some fun y => ofFnM_eq_some fun x => ?_
    rw [Nat.zero_add, Nat.zero_add]
    exact pixel y y.isLt x x.isLt
  rw [read_laid laid known, if_neg (Nat.not_lt.2 whole.within.rows), pixels]
  rfl

section
variable (region : Region) (rgb : Bool) {p : Plane}

theorem sameRows_luma (fills : Plane.Fills ⟨region.width, region.height⟩ p)
    (stored : ∀ y x, (bytes y x).get Channel.first = p.byteAt y x) :
    Plane.SameRows p (Plane.build ⟨region.width, region.height⟩ fun y x =>
      toByte ((Picture.ofBytes region rgb bytes).sample x y Channel.first)) := by
  refine Plane.sameRows_build fills fun y hy x hx => ?_
  rw [Picture.toByte_sample rgb bytes _ hx hy, stored y x]

theorem sameRows_color {k : Channel} (subsampled : bytes.Subsampled) (color : k ≠ Channel.first)
    (fills : Plane.Fills ⟨Format.half region.width, Format.half region.height⟩ p)
    (stored : ∀ y x, (bytes y x).get k = p.byteAt (y / 2) (x / 2)) :
    Plane.SameRows p (Plane.build ⟨Format.half region.width, Format.half region.height⟩ fun y x =>
      toByte ((Picture.ofBytes region rgb bytes).average x y k)) := by
  refine Plane.sameRows_build fills fun y hy x hx => ?_
  simp only [Format.half] at hy hx
  -- The first pixel of a square is there, whether or not the square is cut off.
  have row : y * 2 / 2 = y := Nat.mul_div_cancel y Nat.two_pos
  have column : x * 2 / 2 = x := Nat.mul_div_cancel x Nat.two_pos
  rw [Picture.toByte_average subsampled color (by omega) (by omega) column rgb row, stored, row,
    column]

end

theorem pixelBytes_byteChannel (colors : f.isRgb = true) (p : Plane) (y x : Nat) {i : Nat}
    (hi : i < 4) :
    (pixelBytes f [p] y x).get (Picture.byteChannel f i) = p.byteAt y (x * 4 + i) := by
  obtain rfl | rfl | rfl | rfl : i = 0 ∨ i = 1 ∨ i = 2 ∨ i = 3 := by omega
  all_goals cases f with
  | bgra | argb | rgba => rfl
  | _ => cases colors

theorem sameRows_written (laid : f.Laid region.width region.height planes) (known : f ≠ .unknown)
    (narrow : f ≠ .p010) (squares : f ≠ .yuy2) :
    List.Forall₂ Plane.SameRows planes
      ((Picture.ofBytes region f.isRgb (pixelBytes f planes)).written f) := by
  have subsampled := pixelBytes_subsampled laid known narrow squares
  simp only [Picture.written, SurfaceFormat.shapes, Picture.width_ofBytes, Picture.height_ofBytes]
  simp only [SurfaceFormat.Laid] at laid
  cases f with
  | unknown => exact absurd rfl known
  | p010 => exact absurd rfl narrow
  | yuy2 => exact absurd rfl squares
  | nv12 =>
    simp only [SurfaceFormat.shapes, List.forall₂_cons_left_iff, List.forall₂_nil_left_iff] at laid
    obtain ⟨luma, _, fl, ⟨chroma, _, fc, rfl, rfl⟩, rfl⟩ := laid
    refine .cons (sameRows_luma region false fl fun _ _ => rfl)
      (.cons (Plane.sameRows_build fc ?_) .nil)
    intro y hy x hx
    simp only [Format.half] at hy hx
    -- Even columns have the second sample of a pixel, and odd ones the third.
    show _ = (Picture.ofBytes region false (pixelBytes .nv12 [luma, chroma])).byte .nv12 1 y x
    rw [byte_nv12 false (x := x / 2 * 2) (y := y * 2) (by omega) (by omega) (subsampled rfl)
      (by omega) (by omega)]
    rcases Nat.mod_two_eq_zero_or_one x with even | odd
    · have place : x / 2 * 2 / 2 * 2 = x := by omega
      rw [if_pos even]
      show _ = chroma.byteAt (y * 2 / 2) (x / 2 * 2 / 2 * 2)
      rw [place, Nat.mul_div_cancel y Nat.two_pos]
    · have place : x / 2 * 2 / 2 * 2 + 1 = x := by omega
      rw [if_neg (by omega)]
      show _ = chroma.byteAt (y * 2 / 2) (x / 2 * 2 / 2 * 2 + 1)
      rw [place, Nat.mul_div_cancel y Nat.two_pos]
  | yuv420p =>
    simp only [SurfaceFormat.shapes, List.forall₂_cons_left_iff, List.forall₂_nil_left_iff] at laid
    obtain ⟨luma, _, fl, ⟨u, _, fu, ⟨v, _, fv, rfl, rfl⟩, rfl⟩, rfl⟩ := laid
    have second : Plane.SameRows u _ :=
      sameRows_color region false (subsampled rfl) (k := .second) (by decide) fu fun _ _ => rfl
    have third : Plane.SameRows v _ :=
      sameRows_color region false (subsampled rfl) (k := .third) (by decide) fv fun _ _ => rfl
    exact .cons (sameRows_luma region false fl fun _ _ => rfl) (.cons second (.cons third .nil))
  | yv12 =>
    simp only [SurfaceFormat.shapes, List.forall₂_cons_left_iff, List.forall₂_nil_left_iff] at laid
    obtain ⟨luma, _, fl, ⟨v, _, fv, ⟨u, _, fu, rfl, rfl⟩, rfl⟩, rfl⟩ := laid
    have second : Plane.SameRows u _ :=
      sameRows_color region false (subsampled rfl) (k := .second) (by decide) fu fun _ _ => rfl
    have third : Plane.SameRows v _ :=
      sameRows_color region false (subsampled rfl) (k := .third) (by decide) fv fun _ _ => rfl
    exact .cons (sameRows_luma region false fl fun _ _ => rfl) (.cons third (.cons second .nil))
  | gray8 =>
    simp only [SurfaceFormat.shapes, List.forall₂_cons_left_iff, List.forall₂_nil_left_iff] at laid
    obtain ⟨plane, _, fills, rfl, rfl⟩ := laid
    exact .cons (sameRows_luma region false fills fun _ _ => rfl) .nil
  | bgra | argb | rgba =>
    simp only [SurfaceFormat.shapes, List.forall₂_cons_left_iff, List.forall₂_nil_left_iff] at laid
    obtain ⟨plane, _, fills, rfl, rfl⟩ := laid
    refine .cons (Plane.sameRows_build fills ?_) .nil
    intro y hy x hx
    have inside : x < region.width * 4 := hx
    obtain ⟨column, i, hi, rfl⟩ : ∃ column i, i < 4 ∧ x = column * 4 + i :=
      ⟨x / 4, x % 4, Nat.mod_lt _ (by decide), (Nat.div_add_mod' x 4).symm⟩
    exact (pixelBytes_byteChannel rfl plane y column hi).symm.trans
      (byte_of_isRgb true (by omega) hy rfl hi).symm

/-! ### There and back -/

section
variable (whole : region.Whole region.width region.height)
include whole

theorem read_pixelBytes (laid : f.Laid region.width region.height planes) (known : f ≠ .unknown)
    (narrow : f ≠ .p010) :
    Picture.read planes f region =
      .ok (Picture.ofBytes region f.isRgb (pixelBytes f planes)) :=
  read_eq_ofBytes laid known whole fun _ _ _ hx => readPixel?_bytes laid known narrow hx

theorem read_written (known : f ≠ .unknown) (colored : f ≠ .gray8)
    (color : f.isRgb = false → bytes.Subsampled) :
    Picture.read ((Picture.ofBytes region f.isRgb bytes).written f) f region =
      .ok (Picture.ofBytes region f.isRgb bytes) := by
  have laid : f.Laid region.width region.height
      ((Picture.ofBytes region f.isRgb bytes).written f) :=
    (Picture.ofBytes region f.isRgb bytes).written_laid f
  refine read_eq_ofBytes laid known whole fun y hy x hx => ?_
  by_cases wide : f = .p010
  · subst wide
    exact readPixel?_p010 _ hx hy (color rfl)
  · rw [readPixel?_bytes laid known wide hx, pixelBytes_written _ hx hy known wide colored color]

end

theorem throughPicture_of_read (parameters : Parameters) {picture : Picture}
    (read : Picture.read planes source region = .ok picture) (family : picture.rgb = target.isRgb)
    (known : target ≠ .unknown) :
    throughPicture parameters planes source region target picture.width picture.height
        picture.width_pos picture.height_pos = .ok (picture.written target) := by
  have scaled : picture.scale parameters.interpolation picture.width picture.height
      picture.width_pos picture.height_pos = picture := if_pos ⟨rfl, rfl⟩
  have kept : picture.toFamily parameters target.isRgb = picture := if_pos family
  unfold throughPicture
  rw [read]
  show (Picture.toFamily parameters target.isRgb (Picture.scale ..)).write target = _
  rw [scaled, kept, picture.write_eq known]

def Stores (source target : SurfaceFormat) : Prop :=
  source ∈ [.nv12, .yuv420p, .yv12, .gray8] ∧ target ∈ [.nv12, .yuv420p, .yv12, .yuy2, .p010] ∨
    source ∈ [.bgra, .rgba, .argb] ∧ target ∈ [.bgra, .rgba, .argb]

instance (source target : SurfaceFormat) : Decidable (Stores source target) :=
  inferInstanceAs (Decidable (_ ∨ _))

/-- What is asked of two layouts for their samples to come back. -/
structure Compatible (source target : SurfaceFormat) : Prop where
  known : source ≠ .unknown
  narrow : source ≠ .p010
  squares : source ≠ .yuy2
  targetKnown : target ≠ .unknown
  colored : target ≠ .gray8
  family : source.isRgb = target.isRgb

theorem Stores.compatible (stores : Stores source target) : Compatible source target := by
  obtain ⟨luma, stored⟩ | ⟨colors, stored⟩ := stores
  · have all : ∀ f ∈ [SurfaceFormat.nv12, .yuv420p, .yv12, .gray8],
        ∀ g ∈ [SurfaceFormat.nv12, .yuv420p, .yv12, .yuy2, .p010],
          f ≠ .unknown ∧ f ≠ .p010 ∧ f ≠ .yuy2 ∧ g ≠ .unknown ∧ g ≠ .gray8 ∧ f.isRgb = g.isRgb := by
      decide
    obtain ⟨known, narrow, squares, targetKnown, colored, family⟩ := all source luma target stored
    exact ⟨known, narrow, squares, targetKnown, colored, family⟩
  · have all : ∀ f ∈ [SurfaceFormat.bgra, .rgba, .argb], ∀ g ∈ [SurfaceFormat.bgra, .rgba, .argb],
          f ≠ .unknown ∧ f ≠ .p010 ∧ f ≠ .yuy2 ∧ g ≠ .unknown ∧ g ≠ .gray8 ∧ f.isRgb = g.isRgb := by
      decide
    obtain ⟨known, narrow, squares, targetKnown, colored, family⟩ := all source colors target stored
    exact ⟨known, narrow, squares, targetKnown, colored, family⟩

theorem convertRegion_back (parameters parameters' : Parameters)
    (laid : source.Laid region.width region.height planes)
    (whole : region.Whole region.width region.height) (compatible : Compatible source target)
    (changes : source ≠ target) :
    ∃ there back,
      convertRegion parameters planes source region target region.width region.height
        region.width_pos region.height_pos = .ok there ∧
      target.Laid region.width region.height there ∧
      convertRegion parameters' there target region source region.width region.height
        region.width_pos region.height_pos = .ok back ∧
      List.Forall₂ Plane.SameRows planes back := by
  obtain ⟨known, narrow, squares, targetKnown, colored, family⟩ := compatible
  let picture := Picture.ofBytes region source.isRgb (pixelBytes source planes)
  have read : Picture.read planes source region = .ok picture :=
    read_pixelBytes whole laid known narrow
  have readBack : Picture.read (picture.written target) target region = .ok picture := by
    have color : target.isRgb = false → (pixelBytes source planes).Subsampled := fun luma =>
      pixelBytes_subsampled laid known narrow squares (family.trans luma)
    have written := read_written whole targetKnown colored color
    rwa [← family] at written
  refine ⟨picture.written target, picture.written source, ?_, picture.written_laid target, ?_, ?_⟩
  · rw [convertRegion_not_keeping _ _ fun keeps => changes keeps.1]
    exact throughPicture_of_read parameters read family targetKnown
  · rw [convertRegion_not_keeping _ _ fun keeps => changes keeps.1.symm]
    exact throughPicture_of_read parameters' readBack rfl known
  · exact sameRows_written laid known narrow squares

/-- A whole surface that is converted to another layout of the same size, and then back, has the
rows that it had, whatever the parameters of the two conversions are. In between it is a surface
of the other layout. -/
theorem convert_back (parameters parameters' : Parameters) {w h : UInt32}
    (laid : source.Laid w.toNat h.toNat planes) (stores : Stores source target)
    (columns : 1 ≤ w.toNat ∧ w.toNat ≤ 2147483647) (rows : 1 ≤ h.toNat ∧ h.toNat ≤ 2147483647) :
    ∃ there back,
      convert parameters planes source (Surface.wholeRect w h) target w.toNat h.toNat
        = .ok there ∧
      target.Laid w.toNat h.toNat there ∧
      convert parameters' there target (Surface.wholeRect w h) source w.toNat h.toNat
        = .ok back ∧
      List.Forall₂ Plane.SameRows planes back := by
  have compatible := stores.compatible
  by_cases same : source = target
  · -- Nothing is read: both times all planes are copied.
    subst same
    have pairs : source = .yuy2 → w.toNat % 2 = 0 := fun yuy2 => absurd yuy2 compatible.squares
    obtain ⟨there, converted, kept⟩ :=
      convert_whole_kept parameters laid compatible.known pairs columns rows
    have laid' : source.Laid w.toNat h.toNat there :=
      forall₂_through (fun _ _ _ fills same => fills.of_sameRows same) laid kept
    obtain ⟨back, convertedBack, keptBack⟩ :=
      convert_whole_kept parameters' laid' compatible.known pairs columns rows
    refine ⟨there, back, converted, laid', convertedBack, ?_⟩
    exact forall₂_through (fun _ _ _ first second => first.trans second) kept keptBack
  · obtain ⟨region, found, left, top, width, height⟩ := ofRect?_wholeRect columns rows
    rw [← width, ← height] at laid ⊢
    obtain ⟨there, back, converted, thereLaid, convertedBack, kept⟩ :=
      convertRegion_back parameters parameters' laid ⟨left, top, rfl, rfl⟩ compatible same
    refine ⟨there, back, ?_, thereLaid, ?_, kept⟩
    · rw [convert_eq parameters planes source target found region.width_pos region.height_pos]
      exact converted
    · rw [convert_eq parameters' there target source found region.width_pos region.height_pos]
      exact convertedBack

theorem convert_back_of_nv12 :
    let planes := [Plane.packed #[1, 2, 255, 9, 8, 7] 3 2, Plane.packed #[4, 5, 6, 128] 4 1]
    SurfaceFormat.nv12.Laid 3 2 planes ∧ Stores .nv12 .p010 ∧
      ∃ there back,
        convert {} planes .nv12 (Surface.wholeRect 3 2) .p010 3 2 = .ok there ∧
        SurfaceFormat.p010.Laid 3 2 there ∧
        convert { matrix := .bt601, fullRange := true } there .p010 (Surface.wholeRect 3 2) .nv12
          3 2 = .ok back ∧
        List.Forall₂ Plane.SameRows planes back := by
  intro planes
  have laid : SurfaceFormat.nv12.Laid 3 2 planes := by decide
  have stores : Stores .nv12 .p010 := by decide
  exact ⟨laid, stores, convert_back {} _ (w := 3) (h := 2) laid stores (by decide) (by decide)⟩

end VideoScaler.Conversion
