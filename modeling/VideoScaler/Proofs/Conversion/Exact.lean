import VideoScaler.Conversion.Picture

/-! Pictures whose samples are bytes.

The samples of such a picture are not changed by what is done to store them: a byte comes back
from a single precision number, from the average of equal numbers, and from ten bits. All of
this is exact, as no number needs more than the 24 bits that a single precision number has; it
is checked for all bytes.

In a picture of luma and color differences, the pixels of each square of two by two have the
same color samples.
-/

set_option autoImplicit false

namespace VideoScaler.Conversion

theorem forall_byte {P : UInt8 → Prop} (all : ∀ n < 256, P (UInt8.ofNat n)) (b : UInt8) : P b := by
  have byte := all b.toNat b.toNat_lt
  rwa [UInt8.ofNat_toNat] at byte

theorem toByte_toFloat32 (b : UInt8) : toByte b.toFloat32 = b := by
  revert b
  refine forall_byte ?_
  decide +kernel

theorem sum_of_four_div (b : UInt8) :
    (b.toFloat32 + b.toFloat32 + b.toFloat32 + b.toFloat32) / 4 = b.toFloat32 := by
  revert b
  refine forall_byte ?_
  decide +kernel

theorem sum_of_two_div (b : UInt8) : (b.toFloat32 + b.toFloat32) / 2 = b.toFloat32 := by
  revert b
  refine forall_byte ?_
  decide +kernel

theorem toTenBits_div (b : UInt8) : (toTenBits b.toFloat32).toFloat32 / 256 = b.toFloat32 := by
  revert b
  refine forall_byte ?_
  decide +kernel

theorem toFloat32_full : (255 : UInt8).toFloat32 = 255 := by
  decide +kernel

theorem toFloat32_neutral : (128 : UInt8).toFloat32 = 128 := by
  decide +kernel

abbrev PixelBytes := Nat → Nat → Vector UInt8 4

def Picture.ofBytes (region : Region) (rgb : Bool) (bytes : PixelBytes) : Picture where
  width := region.width
  height := region.height
  width_pos := region.width_pos
  height_pos := region.height_pos
  rgb := rgb
  pixels := Vector.ofFn fun y => Vector.ofFn fun x => (bytes y x).map UInt8.toFloat32

@[simp] theorem Picture.width_ofBytes (region : Region) (rgb : Bool) (bytes : PixelBytes) :
    (ofBytes region rgb bytes).width = region.width :=
  rfl

@[simp] theorem Picture.height_ofBytes (region : Region) (rgb : Bool) (bytes : PixelBytes) :
    (ofBytes region rgb bytes).height = region.height :=
  rfl

/-- Have the pixels of each square of two by two the same color samples, and full opacity? -/
structure PixelBytes.Subsampled (bytes : PixelBytes) : Prop where
  shared : ∀ {y y' x x' : Nat} {k : Channel}, k ≠ Channel.first → y / 2 = y' / 2 → x / 2 = x' / 2 →
    (bytes y x).get k = (bytes y' x').get k
  solid : ∀ y x, (bytes y x).get Channel.opacity = 255

section
variable {region : Region} {rgb : Bool} {bytes : PixelBytes} {x y : Nat}

theorem pixel_eq {v : Vector UInt8 4} {a b c d : UInt8} (first : a = v.get Channel.first)
    (second : b = v.get Channel.second) (third : c = v.get Channel.third)
    (opacity : d = v.get Channel.opacity) : #v[a, b, c, d] = v := by
  subst first second third opacity
  apply Vector.ext
  intro i hi
  match i with
  | 0 | 1 | 2 | 3 => rfl

theorem map_pixel (a b c d : UInt8) : #v[a, b, c, d].map UInt8.toFloat32 =
    #v[a.toFloat32, b.toFloat32, c.toFloat32, d.toFloat32] := by
  simp

namespace Picture

theorem sample_ofBytes (region : Region) (rgb : Bool) (bytes : PixelBytes) (x y : Nat)
    (k : Channel) :
    (ofBytes region rgb bytes).sample x y k =
      ((bytes (min y (region.height - 1)) (min x (region.width - 1))).get k).toFloat32 := by
  have hy : min y (region.height - 1) < region.height := by
    have := region.height_pos
    omega
  have hx : min x (region.width - 1) < region.width := by
    have := region.width_pos
    omega
  show (((ofBytes region rgb bytes).pixels[min y (region.height - 1)])[min x (region.width - 1)])[k]
    = _
  simp only [ofBytes, Vector.getElem_ofFn, Fin.getElem_fin, Vector.getElem_map]
  rfl

theorem sample_inside (rgb : Bool) (bytes : PixelBytes) (k : Channel) (hx : x < region.width)
    (hy : y < region.height) :
    (ofBytes region rgb bytes).sample x y k = ((bytes y x).get k).toFloat32 := by
  rw [sample_ofBytes, Nat.min_eq_left (by omega), Nat.min_eq_left (by omega)]

theorem toByte_sample (rgb : Bool) (bytes : PixelBytes) (k : Channel) (hx : x < region.width)
    (hy : y < region.height) :
    toByte ((ofBytes region rgb bytes).sample x y k) = (bytes y x).get k := by
  rw [sample_inside rgb bytes k hx hy, toByte_toFloat32]

variable (subsampled : bytes.Subsampled) {k : Channel} (color : k ≠ Channel.first) {i j : Nat}
  (hx : x < region.width) (hy : y < region.height) (hi : x / 2 = i)
include subsampled color hx hy hi

/-- The average of a square is the sample that its pixels share, also where the square is cut off
by an edge. -/
theorem average_ofBytes (rgb : Bool) (hj : y / 2 = j) :
    (ofBytes region rgb bytes).average i j k = ((bytes y x).get k).toFloat32 := by
  have sample (n m : Nat) (hn : n / 2 = i) (hm : m / 2 = j) :
      (ofBytes region rgb bytes).sample n m k = ((bytes y x).get k).toFloat32 := by
    rw [sample_ofBytes]
    exact congrArg UInt8.toFloat32 (subsampled.shared color (by omega) (by omega))
  unfold average
  simp only
  rw [sample _ _ (by omega) (by omega), sample _ _ (by omega) (by omega),
    sample _ _ (by omega) (by omega), sample _ _ (by omega) (by omega), sum_of_four_div]

theorem pairAverage_ofBytes (rgb : Bool) :
    (ofBytes region rgb bytes).pairAverage i y k = ((bytes y x).get k).toFloat32 := by
  have sample (n : Nat) (hn : n / 2 = i) :
      (ofBytes region rgb bytes).sample n y k = ((bytes y x).get k).toFloat32 := by
    rw [sample_ofBytes]
    exact congrArg UInt8.toFloat32 (subsampled.shared color (by omega) (by omega))
  unfold pairAverage
  rw [sample _ (by omega), sample _ (by omega), sum_of_two_div]

theorem toByte_average (rgb : Bool) (hj : y / 2 = j) :
    toByte ((ofBytes region rgb bytes).average i j k) = (bytes y x).get k := by
  rw [average_ofBytes subsampled color hx hy hi rgb hj, toByte_toFloat32]

theorem toByte_pairAverage (rgb : Bool) :
    toByte ((ofBytes region rgb bytes).pairAverage i y k) = (bytes y x).get k := by
  rw [pairAverage_ofBytes subsampled color hx hy hi rgb, toByte_toFloat32]

end Picture

end

end VideoScaler.Conversion
