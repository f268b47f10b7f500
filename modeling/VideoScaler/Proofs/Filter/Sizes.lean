import VideoScaler.Proofs.Filter.Bridging
import VideoScaler.Proofs.Filter.Copying
import VideoScaler.Proofs.Filter.Preference
import VideoScaler.Proofs.Frame.Packing

/-! Sizes of pictures in 64 bits.

What the planes of a picture take up without padding, and what they take up on a surface, is
computed here by operations that refuse a result of more than 64 bits. A converter is only set up
for sides of 31 bits, and for these nothing is refused. There is no room to spare: the widest rows
on a surface come to `2 ^ 64 - 2 ^ 33` bytes, and with one more row and column to `2 ^ 64`.

That a size is computed rightly does not mean that there can be an array of it: an array has no more
than half of what 64 bits count, so that a surface of the greatest size is not made.
-/

set_option autoImplicit false

namespace VideoScaler

theorem Number.word?_eq_none {n : Nat} (large : ¬n < UInt64.size) : word? n = none :=
  if_neg large

namespace Format

def addPlane? (total : Nat) (shape : Shape) : Option Nat := do
  let bytes ← Number.word? (shape.rowBytes * shape.rows)
  Number.word? (total + bytes)

/-- The bytes of a picture stored plane after plane without padding, added up plane by plane. -/
def packedWord? (shapes : List Shape) : Option Nat :=
  shapes.foldlM addPlane? 0

theorem addPlane?_eq (total : Nat) (shape : Shape) :
    addPlane? total shape = Number.word? (total + shape.bytes) := by
  show (Number.word? shape.bytes >>= fun bytes => Number.word? (total + bytes)) = _
  by_cases small : shape.bytes < UInt64.size
  · rw [Number.word?_eq small]
    rfl
  · rw [Number.word?_eq_none small, Number.word?_eq_none (by omega)]
    rfl

-- The planes before those that are still to come are in `total`.
theorem foldlM_addPlane? (shapes : List Shape) {total : Nat} (small : total < UInt64.size) :
    shapes.foldlM addPlane? total = Number.word? (total + packedBytes shapes) := by
  induction shapes generalizing total with
  | nil => exact (Number.word?_eq small).symm
  | cons shape shapes ih =>
    rw [List.foldlM_cons, addPlane?_eq, packedBytes_cons, ← Nat.add_assoc]
    by_cases next : total + shape.bytes < UInt64.size
    · rw [Number.word?_eq next]
      exact ih next
    · rw [Number.word?_eq_none next, Number.word?_eq_none (by omega)]
      rfl

theorem packedWord?_eq (shapes : List Shape) :
    packedWord? shapes = Number.word? (packedBytes shapes) := by
  rw [packedWord?, foldlM_addPlane? shapes (by decide), Nat.zero_add]

end Format

namespace Plane

/-- A new plane of zeros, if its sizes are numbers of 64 bits. Only the arithmetic is looked at here,
and not whether there can be such an array. -/
def zeroWord? (shape : Format.Shape) : Option Plane := do
  let pitch ← Number.word? (pitchFor shape.rowBytes)
  let size ← Number.word? (pitch * shape.rows)
  return ⟨Array.replicate size 0, pitch, shape.rowBytes, shape.rows⟩

variable {shape : Format.Shape} {n : Nat}

theorem zeroWord?_eq (rows : 1 ≤ shape.rows) :
    zeroWord? shape =
      (Number.word? (pitchFor shape.rowBytes * shape.rows)).map fun _ => zero shape := by
  have pitch_le : pitchFor shape.rowBytes ≤ pitchFor shape.rowBytes * shape.rows :=
    Nat.le_mul_of_pos_right _ rows
  unfold zeroWord?
  by_cases small : pitchFor shape.rowBytes * shape.rows < UInt64.size
  · simp only [Number.word?_eq (Nat.lt_of_le_of_lt pitch_le small), Number.word?_eq small,
      Option.bind_eq_bind, Option.bind_some, Option.map_some]
    rfl
  · rw [Number.word?_eq_none small]
    by_cases narrow : pitchFor shape.rowBytes < UInt64.size
    · simp only [Number.word?_eq narrow, Option.bind_eq_bind, Option.bind_some,
        Number.word?_eq_none small, Option.bind_none, Option.map_none]
    · simp only [Number.word?_eq_none narrow, Option.bind_eq_bind, Option.bind_none,
        Option.map_none]

/-- The widest layout with one row and one column more than 31 bits count. -/
example : zeroWord? ⟨4 * 2147483648, 2147483648⟩ = none := rfl

theorem dvd_pitchFor (n : Nat) : 64 ∣ pitchFor n :=
  Nat.dvd_mul_left 64 _

theorem pitchFor_lt (positive : 1 ≤ n) : pitchFor n < n + 64 := by
  unfold pitchFor
  omega

end Plane

structure Resolution.Signed (size : Resolution) : Prop where
  columns : 1 ≤ size.width.toNat ∧ size.width.toNat ≤ 2147483647
  rows : 1 ≤ size.height.toNat ∧ size.height.toNat ≤ 2147483647

theorem Resolution.Signed.of_toInt32 {size : Resolution} (columns : 0 < size.width.toInt32)
    (rows : 0 < size.height.toInt32) : size.Signed :=
  ⟨toNat_of_toInt32_pos columns, toNat_of_toInt32_pos rows⟩

/-- No picture has more than four bytes for each of its pixels, up to an odd last column. -/
theorem PixelFormat.packedBytes_le (f : PixelFormat) (width height : Nat) :
    Format.packedBytes (f.shapes width height) ≤ 4 * ((width + 1) * height) := by
  have columns : 2 * Format.half width ≤ width + 1 := by
    unfold Format.half
    omega
  have rows : Format.half height ≤ height := by
    unfold Format.half
    omega
  have chroma : 2 * Format.half width * height ≤ (width + 1) * height :=
    Nat.mul_le_mul_right height columns
  have halved : Format.half width * Format.half height ≤ Format.half width * height :=
    Nat.mul_le_mul_left _ rows
  have area : 0 ≤ width * height := Nat.zero_le _
  have pairs : 0 ≤ Format.half width * height := Nat.zero_le _
  cases f <;>
    simp only [shapes, Format.packedBytes, Format.Shape.bytes, List.foldr_cons, List.foldr_nil] <;>
    linarith only [chroma, halved, area, pairs, Nat.zero_le height]

theorem PixelFormat.packedBytes_lt (f : PixelFormat) {size : Resolution} (signed : size.Signed) :
    Format.packedBytes (f.shapes size.width.toNat size.height.toNat) < UInt64.size := by
  calc
    Format.packedBytes (f.shapes size.width.toNat size.height.toNat)
      ≤ 4 * ((size.width.toNat + 1) * size.height.toNat) := f.packedBytes_le _ _
    _ ≤ 4 * (2147483648 * 2147483647) :=
      Nat.mul_le_mul_left 4 (Nat.mul_le_mul (Nat.succ_le_succ signed.columns.2) signed.rows.2)
    _ < UInt64.size := by decide

theorem SurfaceFormat.shapes_eq (f : SurfaceFormat) :
    ∃ pixel : PixelFormat, ∀ width height, f.shapes width height = pixel.shapes width height := by
  cases f with
  | unknown => exact ⟨.amf, fun _ _ => rfl⟩
  | nv12 => exact ⟨.nv12, fun _ _ => rfl⟩
  | yv12 | yuv420p => exact ⟨.yuv420p, fun _ _ => rfl⟩
  | bgra | argb | rgba => exact ⟨.bgra, fun _ _ => rfl⟩
  | gray8 => exact ⟨.gray8, fun _ _ => rfl⟩
  | yuy2 => exact ⟨.yuyv422, fun _ _ => rfl⟩
  | p010 => exact ⟨.p010, fun _ _ => rfl⟩

namespace Converter

variable {c d : Converter} {context : DeviceContext} {outFormat inFormat : PixelFormat}
  {outSize inSize : Resolution} {config : ScaleConfig} {m : Media}

theorem accepted_of_applySettings {settings : List (String × Variant)}
    (applied : Scaler.applySettings c settings = (.ok (), d)) :
    ∀ entry ∈ settings, accepts entry.1 entry.2 = true := by
  induction settings generalizing c with
  | nil => nofun
  | cons entry settings ih =>
    obtain ⟨name, value⟩ := entry
    unfold Scaler.applySettings at applied
    split at applied
    case h_2 => cases applied
    case h_1 set =>
      refine List.forall_mem_cons.2 ⟨?_, ih applied⟩
      by_contra refused
      have unset : c.setProperty name value = (.error .invalidArg, c) := if_neg refused
      cases unset.symm.trans set

theorem outSize_pos_of_configure {s t : Scaler Converter} {n : Media}
    (configured : s.configure softwareRuntime context outFormat outSize config inFormat inSize m
      = (.ok (), t, n)) : 0 < outSize.width.toInt32 ∧ 0 < outSize.height.toInt32 := by
  obtain ⟨c, -, -, -, -, prepared⟩ := prepared_of_configure configured
  obtain ⟨d, applied, -⟩ := prepare_ok prepared
  have asked : (Property.outputSize, Variant.size outSize.width.toInt32 outSize.height.toInt32) ∈
      Scaler.settings config (.ofPixelFormat outFormat) outSize := by
    simp [Scaler.settings]
  have accepted := accepted_of_applySettings applied _ asked
  simpa only [accepts, if_true, Variant.size?, Bool.and_eq_true, decide_eq_true_eq] using accepted

theorem configure_new_ok_iff (context : DeviceContext) (outFormat inFormat : PixelFormat)
    (outSize inSize : Resolution) (config : ScaleConfig) (m : Media) :
    (Scaler.new.configure softwareRuntime context outFormat outSize config inFormat inSize m).1 =
        .ok () ↔
      SurfaceFormat.ofPixelFormat outFormat ≠ .unknown ∧
        SurfaceFormat.ofPixelFormat inFormat ≠ .unknown ∧ outSize.Signed ∧ inSize.Signed := by
  constructor
  · intro ready
    obtain ⟨t, n, configured⟩ : ∃ t n, Scaler.new.configure softwareRuntime context outFormat
      outSize config inFormat inSize m = (.ok (), t, n) := ⟨_, _, Prod.ext ready rfl⟩
    obtain ⟨-, -, -, known, readable, -⟩ := ready_of_configure configured
    obtain ⟨outColumns, outRows⟩ := outSize_pos_of_configure configured
    obtain ⟨inColumns, inRows⟩ := size_pos_of_configure configured
    exact ⟨known, readable, .of_toInt32 outColumns outRows, .of_toInt32 inColumns inRows⟩
  · rintro ⟨known, readable, out, input⟩
    rw [configure_new_fst context outFormat inFormat config m
      ⟨Dimensions.toInt32_pos out.columns, Dimensions.toInt32_pos out.rows⟩
      ⟨Dimensions.toInt32_pos input.columns, Dimensions.toInt32_pos input.rows⟩,
      if_neg known, if_neg readable]

end Converter

namespace Plane

theorem zeroWord?_of_signed {f : PixelFormat} {size : Resolution} (signed : size.Signed) :
    ∀ shape ∈ f.shapes size.width.toNat size.height.toNat, zeroWord? shape = some (zero shape) := by
  intro shape member
  rw [zeroWord?_eq (PixelFormat.rows_pos signed.rows.1 shape member),
    Number.word?_eq (PixelFormat.pitchFor_mul_rows_lt signed.columns.2 signed.rows.2 shape member),
    Option.map_some]

end Plane

/-- A converter gets ready for sides of 31 bits and for no others. With these, the bytes of a
picture without padding, and those of each of its planes on a surface, are a number of 64 bits, and
so is every number on the way. Rows on a surface are apart by the least multiple of 64 bytes that
has room for them, and all of them are in the data. What is left to fail when a surface is made is
that one of its planes is too large for an array. -/
theorem sizes_fit :
    (∀ (context : DeviceContext) (outFormat inFormat : PixelFormat) (outSize inSize : Resolution)
      (config : ScaleConfig) (m : Media),
        (Scaler.new.configure softwareRuntime context outFormat outSize config inFormat inSize
            m).1 = .ok () ↔
          SurfaceFormat.ofPixelFormat outFormat ≠ .unknown ∧
            SurfaceFormat.ofPixelFormat inFormat ≠ .unknown ∧ outSize.Signed ∧ inSize.Signed) ∧
    (∀ (pixel : PixelFormat) (surface : SurfaceFormat) (size : Resolution), size.Signed →
      ∀ shapes ∈ [pixel.shapes size.width.toNat size.height.toNat,
          surface.shapes size.width.toNat size.height.toNat],
        Format.packedBytes shapes < UInt64.size ∧
        Format.packedWord? shapes = some (Format.packedBytes shapes) ∧
        ∀ shape ∈ shapes,
          let p := Plane.zero shape
          Plane.zeroWord? shape = some p ∧ p.pitch * p.rows < UInt64.size ∧
          64 ∣ p.pitch ∧ shape.rowBytes ≤ p.pitch ∧ p.pitch < shape.rowBytes + 64 ∧
          ∀ y < shape.rows, y * p.pitch + shape.rowBytes ≤ p.data.size) ∧
    ∀ (surface : SurfaceFormat) (size : Resolution), size.Signed → surface ≠ .unknown →
      surface.allocation size.width size.height =
        if ∀ shape ∈ surface.shapes size.width.toNat size.height.toNat,
            Plane.pitchFor shape.rowBytes * shape.rows ≤ Bytes.limit then
          .ok (surface.shapes size.width.toNat size.height.toNat)
        else .error (.broken .tooLarge) := by
  refine ⟨Converter.configure_new_ok_iff, fun pixel surface size signed shapes member => ?_,
    fun surface size signed known => ?_⟩
  case refine_2 =>
    rw [SurfaceFormat.allocation_eq known (ne_zero_of_toNat_pos signed.columns.1)
      (ne_zero_of_toNat_pos signed.rows.1)]
    exact if_congr SurfaceFormat.fits_iff rfl rfl
  obtain ⟨f, rfl⟩ : ∃ f : PixelFormat, f.shapes size.width.toNat size.height.toNat = shapes := by
    obtain ⟨held, same⟩ := surface.shapes_eq
    rcases List.mem_cons.1 member with rfl | member
    · exact ⟨pixel, rfl⟩
    · exact ⟨held, (same _ _).symm.trans (List.mem_singleton.1 member).symm⟩
  have packed := f.packedBytes_lt signed
  refine ⟨packed, ?_, fun shape member => ⟨?_, ?_, ?_, ?_, ?_, ?_⟩⟩
  · rw [Format.packedWord?_eq, Number.word?_eq packed]
  · exact Plane.zeroWord?_of_signed signed shape member
  · exact PixelFormat.pitchFor_mul_rows_lt signed.columns.2 signed.rows.2 shape member
  · exact Plane.dvd_pitchFor shape.rowBytes
  · exact Plane.rowBytes_le_pitchFor shape.rowBytes
  · exact Plane.pitchFor_lt (PixelFormat.rowBytes_pos signed.columns.1 shape member)
  · exact fun y hy => (Plane.fills_zero shape).whole y hy

theorem sizes_fit_greatest :
    (⟨2147483647, 2147483647⟩ : Resolution).Signed ∧
      Format.packedWord? [⟨8589934588, 2147483647⟩] = some (2 ^ 64 - 2 ^ 34 + 4) ∧
      Plane.zeroWord? ⟨8589934588, 2147483647⟩ = some (.zero ⟨8589934588, 2147483647⟩) ∧
      (Plane.zero ⟨8589934588, 2147483647⟩).pitch * 2147483647 = 2 ^ 64 - 2 ^ 33 ∧
      2147483646 * (Plane.zero ⟨8589934588, 2147483647⟩).pitch + 8589934588 ≤
        (Plane.zero ⟨8589934588, 2147483647⟩).data.size := by
  have signed : (⟨2147483647, 2147483647⟩ : Resolution).Signed := ⟨by decide, by decide⟩
  obtain ⟨-, packed, planes⟩ := sizes_fit.2.1 .bgra .argb ⟨2147483647, 2147483647⟩ signed
    [⟨8589934588, 2147483647⟩] (List.mem_cons_self ..)
  obtain ⟨laid, -, -, -, -, inside⟩ := planes ⟨8589934588, 2147483647⟩ (List.mem_singleton.2 rfl)
  exact ⟨signed, packed, laid, by decide, inside 2147483646 (by decide)⟩

end VideoScaler
