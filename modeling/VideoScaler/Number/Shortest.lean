import VideoScaler.Number.Decimal

/-! The shortest decimal that reads back as a given double.

A double `m · 2 ^ q` is the nearest double to every number of an interval around it. For
one, two, … seventeen digits the two neighbours of the value on that decimal grid are
tested against the interval in exact arithmetic; the first grid with a hit wins, and of
two hits the nearer one. A value in the middle of two hits goes up.
-/

set_option autoImplicit false

namespace VideoScaler.Number

/-- A positive binary number and the numbers that round to it, in units of
`2 ^ exponent`: everything from `low` to `high`, the ends only if `closed`. -/
structure Cell where
  low : Nat
  value : Nat
  high : Nat
  exponent : Int
  closed : Bool

namespace Cell

/-- The cell of the double with these magnitude bits, in quarters of its last place. The
step below a power of two is half as wide as the step above it. -/
def ofBits (bits : UInt64) : Cell :=
  let fraction := (bits &&& 0xFFFFFFFFFFFFF).toNat
  let biased := ((bits >>> 52) &&& 0x7FF).toNat
  -- Subnormal numbers lack the leading bit, and share the exponent of the least normal ones.
  let m := if biased = 0 then fraction else fraction + 4503599627370496
  let q : Int := if biased = 0 then -1074 else (biased : Int) - 1075
  let below := if fraction = 0 && 1 < biased then 1 else 2
  ⟨4 * m - below, 4 * m, 4 * m + 2, q - 2, m % 2 = 0⟩

def denominator (c : Cell) : Nat :=
  Nat.pow 2 (-c.exponent).toNat

def scaled (c : Cell) (n : Nat) : Nat :=
  n * Nat.pow 2 c.exponent.toNat

def compareWith (c : Cell) (d : Decimal) (n : Nat) : Ordering :=
  compare (d.digits * Nat.pow 10 d.exponent.toNat * c.denominator)
    (c.scaled n * Nat.pow 10 (-d.exponent).toNat)

def contains (c : Cell) (d : Decimal) : Bool :=
  match c.compareWith d c.low, c.compareWith d c.high with
  | .gt, .lt => true
  | .eq, _ => c.closed
  | _, .eq => c.closed
  | _, _ => false

def magnitude (c : Cell) : Int :=
  (Decimal.length (c.scaled c.value * Nat.pow 10 400 / c.denominator) : Int) - 400

def gridBelow (c : Cell) (e : Int) : Decimal :=
  ⟨c.scaled c.value * Nat.pow 10 (-e).toNat / (c.denominator * Nat.pow 10 e.toNat), e⟩

/-- The decimal of `count` digits that reads back and lies nearest to the value; the greater
one when two lie equally near. -/
def onGrid? (c : Cell) (count : Nat) : Option Decimal :=
  let e := c.magnitude - count
  let below := c.gridBelow e
  let above : Decimal := ⟨below.digits + 1, e⟩
  let middle : Decimal := ⟨below.digits * 2 + 1, e⟩
  match c.contains below, c.contains above with
  | true, true => if c.compareWith middle (2 * c.value) = .gt then some below else some above
  | true, false => some below
  | false, true => some above
  | false, false => none

def shortest (c : Cell) : Decimal :=
  ((List.range 17).findSome? fun i => c.onGrid? (i + 1)).getD (c.gridBelow (c.magnitude - 17))

end Cell

/-- Write a decimal in positional notation, with a point only where digits follow it. -/
def Decimal.positional (d : Decimal) : String :=
  let ds := Nat.toDigits 10 d.digits
  if 0 ≤ d.exponent then
    String.ofList (ds ++ List.replicate d.exponent.toNat '0')
  else
    let places := d.exponent.natAbs
    let padded := List.replicate (places + 1 - ds.length) '0' ++ ds
    String.ofList (padded.take (padded.length - places) ++ '.' :: padded.drop (padded.length - places))

/-- Write a double with the fewest digits that read back, in positional notation. -/
def text (x : Float) : String :=
  -- The sign of a number that is none is not shown.
  if x.isNaN then "NaN"
  else
    let sign := if x.toBits >>> 63 = 1 then "-" else ""
    let bits := x.toBits &&& 0x7FFFFFFFFFFFFFFF
    if bits = 0 then sign ++ "0"
    else if bits = 0x7FF0000000000000 then sign ++ "inf"
    else sign ++ (Cell.ofBits bits).shortest.positional

end VideoScaler.Number
