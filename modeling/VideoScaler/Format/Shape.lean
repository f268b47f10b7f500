/-! The size of one plane of samples: how many bytes a row has and how many rows there are. -/

set_option autoImplicit false

namespace VideoScaler.Format

structure Shape where
  rowBytes : Nat
  rows : Nat
  deriving DecidableEq, Repr

def Shape.bytes (s : Shape) : Nat :=
  s.rowBytes * s.rows

def packedBytes (shapes : List Shape) : Nat :=
  shapes.foldr (fun shape total => shape.bytes + total) 0

theorem packedBytes_cons (shape : Shape) (shapes : List Shape) :
    packedBytes (shape :: shapes) = shape.bytes + packedBytes shapes :=
  rfl

/-- Half a length, rounded up: the length of a subsampled axis. -/
def half (n : Nat) : Nat :=
  (n + 1) / 2

end VideoScaler.Format
