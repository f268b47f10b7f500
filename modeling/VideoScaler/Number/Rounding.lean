/-! Rounding of binary floating-point numbers to integers.

Every rounding here is built from one truncation, which goes through the unsigned
conversion of the magnitude and keeps the sign, also of zero. Numbers whose magnitude
reaches the end of the fraction bits are integers already and are returned as they are;
so are infinities and numbers that are not a number.
-/

set_option autoImplicit false

namespace VideoScaler.Number

def signBit : UInt64 := 0x8000000000000000

/-- From this magnitude on a double has no fraction bits. -/
def integerFrom : Float := 4503599627370496

def truncate (x : Float) : Float :=
  if x.abs < integerFrom then
    Float.ofBits (x.abs.toUInt64.toFloat.toBits ||| (x.toBits &&& signBit))
  else
    x

def roundDown (x : Float) : Float :=
  let t := truncate x
  if x < t then t - 1 else t

def roundUp (x : Float) : Float :=
  let t := truncate x
  if t < x then t + 1 else t

def roundHalfAway (x : Float) : Float :=
  let t := truncate x
  if 0.5 ≤ (x - t).abs then
    if x < 0 then t - 1 else t + 1
  else
    t

/-- The lesser of two numbers; the other one when one is not a number, the first when
they compare equal. -/
def lesser (a b : Float) : Float :=
  if a.isNaN then b else if b < a then b else a

def greater (a b : Float) : Float :=
  if a.isNaN then b else if a < b then b else a

/-- The integer part of a finite number within the signed 64-bit range. -/
def integerPart (x : Float) : Int :=
  if x < 0 then -(x.abs.toUInt64.toNat : Int) else (x.toUInt64.toNat : Int)

namespace Single

/-- From this magnitude on a single has no fraction bits. -/
def integerFrom : Float32 := 8388608

def signBit : UInt32 := 0x80000000

def truncate (x : Float32) : Float32 :=
  if x.abs < integerFrom then
    Float32.ofBits (x.abs.toUInt64.toFloat32.toBits ||| (x.toBits &&& signBit))
  else
    x

def roundDown (x : Float32) : Float32 :=
  let t := truncate x
  if x < t then t - 1 else t

def roundHalfAway (x : Float32) : Float32 :=
  let t := truncate x
  if 0.5 ≤ (x - t).abs then
    if x < 0 then t - 1 else t + 1
  else
    t

/-- Bring `x` into the range from `low` to `high`; not a number stays as it is. -/
def clamp (low high x : Float32) : Float32 :=
  let x := if x < low then low else x
  if high < x then high else x

def integerPart (x : Float32) : Int :=
  if x < 0 then -(x.abs.toUInt64.toNat : Int) else (x.toUInt64.toNat : Int)

end Single

end VideoScaler.Number
