/-! Whole numbers written in decimal digits.

A number may start with a plus sign, and a signed one with a minus sign; at least one
ASCII digit has to follow and nothing else may. Leading zeros do not matter. Values
outside the range of the type are refused.
-/

set_option autoImplicit false

namespace VideoScaler.Number

def digitsValue (ds : List Char) : Nat :=
  ds.foldl (fun value d => value * 10 + (d.toNat - 48)) 0

def readDigits? (s : List Char) : Option Nat :=
  if !s.isEmpty && s.all Char.isDigit then some (digitsValue s) else none

def readUnsigned? (limit : Nat) (s : List Char) : Option Nat := do
  let value ← readDigits? (match s with
    | '+' :: digits => digits
    | digits => digits)
  if value ≤ limit then some value else none

def readSigned? (s : List Char) : Option Int :=
  match s with
  | '-' :: digits => (readDigits? digits).map fun n => -(n : Int)
  | '+' :: digits => (readDigits? digits).map fun n => (n : Int)
  | digits => (readDigits? digits).map fun n => (n : Int)

def readUInt32? (s : String) : Option UInt32 :=
  (readUnsigned? 4294967295 s.toList).map UInt32.ofNat

end VideoScaler.Number
