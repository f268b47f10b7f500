import VideoScaler.Number.LittleEndian
import VideoScaler.Number.Rounding

/-! Samples as bytes. -/

set_option autoImplicit false

namespace VideoScaler.Conversion

open Number (Single.roundHalfAway Single.clamp)

def narrowAt? (row : Bytes) (i : Nat) : Option Float32 :=
  row[i]?.map UInt8.toFloat32

def pairAt? (row : Bytes) (i : Nat) : Option UInt16 :=
  match row[i]?, row[i + 1]? with
  | some low, some high => some (Number.ofTwoBytes low high)
  | _, _ => none

def sampleAt? (wide : Bool) (row : Bytes) (i : Nat) : Option Float32 :=
  if wide then (pairAt? row i).map UInt16.toFloat32 else narrowAt? row i

def quantize (high v : Float32) : Float32 :=
  Single.clamp 0 high (Single.roundHalfAway v)

def toByte (v : Float32) : UInt8 :=
  (quantize 255 v).toUInt8

def toPair (v : Float32) : UInt16 :=
  (quantize 65535 v).toUInt16

/-- A sample on the scale of eight bits as ten bits at the top of two bytes. -/
def toTenBits (v : Float32) : UInt16 :=
  (quantize 1023 (v * 4)).toUInt16 <<< 6

def halfOf (n : UInt16) (second : Bool) : UInt8 :=
  if second then Number.highByte n else Number.lowByte n

end VideoScaler.Conversion
