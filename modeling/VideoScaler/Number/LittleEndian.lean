/-! Rows of bytes, and whole numbers as bytes, least significant first. -/

set_option autoImplicit false

namespace VideoScaler

abbrev Bytes := Array UInt8

namespace Bytes

/-- The greatest size of an array, whatever memory there is: the distance between two of its
bytes is a signed number of 64 bits. -/
def limit : Nat := 9223372036854775807

/-- Can there be arrays of these sizes? -/
def Fit (sizes : List Nat) : Prop :=
  ∀ size ∈ sizes, size ≤ limit

instance (sizes : List Nat) : Decidable (Fit sizes) :=
  inferInstanceAs (Decidable (∀ size ∈ sizes, size ≤ limit))

end Bytes

namespace Number

def ofTwoBytes (low high : UInt8) : UInt16 :=
  low.toUInt16 ||| (high.toUInt16 <<< 8)

def lowByte (n : UInt16) : UInt8 :=
  n.toUInt8

def highByte (n : UInt16) : UInt8 :=
  (n >>> 8).toUInt8

theorem ofTwoBytes_lowByte_highByte (n : UInt16) : ofTwoBytes (lowByte n) (highByte n) = n := by
  apply UInt16.toBitVec_inj.1
  simp only [ofTwoBytes, lowByte, highByte, UInt16.toBitVec_or, UInt16.toBitVec_shiftLeft,
    UInt8.toBitVec_toUInt16, UInt16.toBitVec_toUInt8, UInt16.toBitVec_shiftRight]
  ext i hi
  by_cases h : i < 8
  · simp [h, BitVec.getElem_setWidth, BitVec.getLsbD_eq_getElem hi]
  · have h8 : 8 + (i - 8) = i := Nat.add_sub_of_le (Nat.le_of_not_lt h)
    have hd : i - 8 < 8 := by omega
    simp [h, hd, h8, BitVec.getElem_setWidth, BitVec.getLsbD_eq_getElem hi]

def fourBytes (n : Int32) : Bytes :=
  let bits := n.toUInt32
  #[bits.toUInt8, (bits >>> 8).toUInt8, (bits >>> 16).toUInt8, (bits >>> 24).toUInt8]

def ofFourBytes? (bytes : Bytes) : Option Int32 :=
  match bytes[0]?, bytes[1]?, bytes[2]?, bytes[3]? with
  | some a, some b, some c, some d =>
    some (a.toUInt32 ||| (b.toUInt32 <<< 8) ||| (c.toUInt32 <<< 16) ||| (d.toUInt32 <<< 24)).toInt32
  | _, _, _, _ => none

def byteInPlace (b : BitVec 32) (start : Nat) : BitVec 32 :=
  ((b >>> start).setWidth 8).setWidth 32 <<< start

theorem getLsbD_byteInPlace (b : BitVec 32) (start i : Nat) (hi : i < 32) :
    (byteInPlace b start).getLsbD i = (decide (start ≤ i ∧ i < start + 8) && b.getLsbD i) := by
  unfold byteInPlace
  by_cases below : i < start
  · simp [below, Nat.not_le.2 below]
  · have back : start + (i - start) = i := by omega
    have inside : i - start < 8 ↔ i < start + 8 := by omega
    have small : i - start < 32 := by omega
    simp [below, hi, back, inside, Nat.le_of_not_lt below, small]

theorem ofFourBytes?_fourBytes (n : Int32) : ofFourBytes? (fourBytes n) = some n := by
  have bits (b : BitVec 32) : byteInPlace b 0 ||| byteInPlace b 8 ||| byteInPlace b 16
      ||| byteInPlace b 24 = b := by
    ext i hi
    have covered : i < 8 ∨ (8 ≤ i ∧ i < 16) ∨ (16 ≤ i ∧ i < 24) ∨ 24 ≤ i := by omega
    rw [← BitVec.getLsbD_eq_getElem hi, ← BitVec.getLsbD_eq_getElem hi]
    simp only [BitVec.getLsbD_or, getLsbD_byteInPlace b _ i hi]
    grind
  have same : n.toUInt32.toUInt8.toUInt32 ||| ((n.toUInt32 >>> 8).toUInt8.toUInt32 <<< 8) |||
      ((n.toUInt32 >>> 16).toUInt8.toUInt32 <<< 16) |||
      ((n.toUInt32 >>> 24).toUInt8.toUInt32 <<< 24) = n.toUInt32 := by
    apply UInt32.toBitVec_inj.1
    simp only [UInt32.toBitVec_or, UInt32.toBitVec_shiftLeft, UInt8.toBitVec_toUInt32,
      UInt32.toBitVec_toUInt8, UInt32.toBitVec_shiftRight]
    simpa [byteInPlace] using bits n.toUInt32.toBitVec
  calc ofFourBytes? (fourBytes n)
      = some (n.toUInt32.toUInt8.toUInt32 ||| ((n.toUInt32 >>> 8).toUInt8.toUInt32 <<< 8) |||
          ((n.toUInt32 >>> 16).toUInt8.toUInt32 <<< 16) |||
          ((n.toUInt32 >>> 24).toUInt8.toUInt32 <<< 24)).toInt32 := rfl
    _ = some n := by rw [same]; rfl

end Number

end VideoScaler
