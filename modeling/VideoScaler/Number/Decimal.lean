import VideoScaler.Number.Integer

/-! Decimal literals and their values as doubles.

A literal has digits around at most one point, at least one digit in all, and an optional
exponent. Its value is the double nearest to the written number; magnitudes past the
range become infinity or zero before any large power is computed.
-/

set_option autoImplicit false

namespace VideoScaler.Number

/-- The number `digits · 10 ^ exponent`. -/
structure Decimal where
  digits : Nat
  exponent : Int
  deriving DecidableEq, Repr

namespace Decimal

def length (n : Nat) : Nat :=
  if n = 0 then 0 else (Nat.toDigits 10 n).length

def toFloat (d : Decimal) : Float :=
  let top := (length d.digits : Int) + d.exponent
  -- The bounds are past the range of doubles on both sides, where only zero and infinity remain.
  if d.digits = 0 || top < -330 then 0
  else if 320 < top then Float.ofBits 0x7FF0000000000000
  else Float.ofScientific d.digits (d.exponent < 0) d.exponent.natAbs

def readMantissa? (s : List Char) : Option Decimal :=
  let whole := s.takeWhile Char.isDigit
  match s.dropWhile Char.isDigit with
  | [] => if whole.isEmpty then none else some ⟨digitsValue whole, 0⟩
  | '.' :: fraction =>
    if fraction.all Char.isDigit && !(whole.isEmpty && fraction.isEmpty) then
      some ⟨digitsValue (whole ++ fraction), -(fraction.length : Int)⟩
    else
      none
  | _ => none

def isExponentMark (c : Char) : Bool :=
  c = 'e' || c = 'E'

def read? (s : List Char) : Option Decimal :=
  let mantissa := s.takeWhile fun c => !isExponentMark c
  match s.dropWhile fun c => !isExponentMark c with
  | [] => readMantissa? mantissa
  | _ :: exponent => do
    let d ← readMantissa? mantissa
    let e ← readSigned? exponent
    some { d with exponent := d.exponent + e }

end Decimal

end VideoScaler.Number
