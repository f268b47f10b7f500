import VideoScaler.Surface.Plane

/-! Patterns of bytes to fill pictures with. -/

set_option autoImplicit false

namespace VideoScaler

inductive PatternRule where
  | literal (bytes : Bytes)
  | fill (value : UInt8)
  /-- Byte `i` is `(i · factor + offset) mod modulus`, of which the low eight bits count. -/
  | linear (factor offset modulus : Nat)
  /-- The high bytes of the states of a linear congruential generator. -/
  | scrambled (seed : UInt32)
  deriving DecidableEq

structure Pattern where
  rule : PatternRule
  /-- How many bytes to make, if it is not left to what is to be filled. -/
  length : Option Nat
  deriving DecidableEq

namespace Pattern

def nextState (state : UInt32) : UInt32 :=
  state * 1664525 + 1013904223

def scrambleOnto (made : Bytes) : Nat → UInt32 → Bytes
  | 0, _ => made
  | n + 1, state =>
    scrambleOnto (made.push (nextState state >>> 24).toUInt8) n (nextState state)

def bytes (p : Pattern) (n : Nat) : Bytes :=
  let n := p.length.getD n
  match p.rule with
  | .literal bytes => bytes
  | .fill value => Array.replicate n value
  | .linear factor offset modulus =>
    Array.ofFn fun i : Fin n => UInt8.ofNat ((i.val * factor + offset) % modulus)
  | .scrambled seed => scrambleOnto #[] n seed

end Pattern

namespace Plane

def overlay (p : Plane) (bytes : Bytes) : Plane :=
  { p with data := p.data.mapIdx fun i old =>
      if i % p.pitch < p.rowBytes then bytes.getD (i / p.pitch * p.rowBytes + i % p.pitch) old
      else old }

/-- Fill planes by patterns, one for each; planes without a pattern stay as they are. -/
def overlayAll : List Plane → List Pattern → List Plane
  | p :: planes, pattern :: patterns =>
    p.overlay (pattern.bytes (p.rowBytes * p.rows)) :: overlayAll planes patterns
  | planes, _ => planes

end Plane

end VideoScaler
