import VideoScaler.Number.Rounding

/-! Dimension expressions: variables, terms and their values. -/

set_option autoImplicit false

namespace VideoScaler.Expression

/-- The quantities an expression can refer to: the input and output size, the input, sample
and display aspect ratios, and how far color is subsampled in and out. -/
inductive Variable where
  | inW | inH | outW | outH | a | sar | dar | hsub | vsub | ohsub | ovsub
  deriving DecidableEq, Repr

namespace Variable

def all : List Variable :=
  [inW, inH, outW, outH, a, sar, dar, hsub, vsub, ohsub, ovsub]

/-- The variable a word names; the sizes have a long and a short name. -/
def ofName? : String → Option Variable
  | "in_w" | "iw" => some inW
  | "in_h" | "ih" => some inH
  | "out_w" | "ow" => some outW
  | "out_h" | "oh" => some outH
  | "a" => some a
  | "sar" => some sar
  | "dar" => some dar
  | "hsub" => some hsub
  | "vsub" => some vsub
  | "ohsub" => some ohsub
  | "ovsub" => some ovsub
  | _ => none

end Variable

structure Vars where
  inW : Float := 0
  inH : Float := 0
  outW : Float := 0
  outH : Float := 0
  a : Float := 0
  sar : Float := 0
  dar : Float := 0
  hsub : Float := 0
  vsub : Float := 0
  ohsub : Float := 0
  ovsub : Float := 0

def Vars.get (vars : Vars) : Variable → Float
  | .inW => vars.inW
  | .inH => vars.inH
  | .outW => vars.outW
  | .outH => vars.outH
  | .a => vars.a
  | .sar => vars.sar
  | .dar => vars.dar
  | .hsub => vars.hsub
  | .vsub => vars.vsub
  | .ohsub => vars.ohsub
  | .ovsub => vars.ovsub

inductive Operator where
  | add | sub | mul | div
  deriving DecidableEq, Repr

def Operator.eval : Operator → Float → Float → Float
  | add, x, y => x + y
  | sub, x, y => x - y
  | mul, x, y => x * y
  | div, x, y => x / y

inductive Choice where
  | min | max
  deriving DecidableEq, Repr

def Choice.eval : Choice → Float → Float → Float
  | min, x, y => Number.lesser x y
  | max, x, y => Number.greater x y

inductive Rounding where
  | floor | ceil | round | trunc
  deriving DecidableEq, Repr

def Rounding.eval : Rounding → Float → Float
  | floor, x => Number.roundDown x
  | ceil, x => Number.roundUp x
  | round, x => Number.roundHalfAway x
  | trunc, x => Number.truncate x

inductive Term where
  | number (value : Float)
  | var (v : Variable)
  | neg (t : Term)
  | binary (op : Operator) (left right : Term)
  | choose (f : Choice) (left right : Term)
  | round (f : Rounding) (t : Term)

namespace Term

def eval (vars : Vars) : Term → Float
  | number value => value
  | var v => vars.get v
  | neg t => -t.eval vars
  | binary op left right => op.eval (left.eval vars) (right.eval vars)
  | choose f left right => f.eval (left.eval vars) (right.eval vars)
  | round f t => f.eval (t.eval vars)

def uses (v : Variable) : Term → Bool
  | number _ => false
  | var w => w = v
  | neg t | round _ t => t.uses v
  | binary _ left right | choose _ left right => left.uses v || right.uses v

theorem eval_congr {t : Term} {vars other : Vars}
    (h : ∀ v, t.uses v = true → vars.get v = other.get v) : t.eval vars = t.eval other := by
  induction t with
  | number value => rfl
  | var v => exact h v (by simp [uses])
  | neg t ih => simp only [eval, ih fun v hv => h v (by simpa [uses] using hv)]
  | binary op left right ihl ihr =>
    simp only [eval, ihl fun v hv => h v (by simp [uses, hv]),
      ihr fun v hv => h v (by simp [uses, hv])]
  | choose f left right ihl ihr =>
    simp only [eval, ihl fun v hv => h v (by simp [uses, hv]),
      ihr fun v hv => h v (by simp [uses, hv])]
  | round f t ih => simp only [eval, ih fun v hv => h v (by simpa [uses] using hv)]

end Term

inductive Function where
  | choice (f : Choice)
  | rounding (f : Rounding)
  deriving DecidableEq, Repr

namespace Function

def ofName? : String → Option Function
  | "min" => some (choice .min)
  | "max" => some (choice .max)
  | "floor" => some (rounding .floor)
  | "ceil" => some (rounding .ceil)
  | "round" => some (rounding .round)
  | "trunc" => some (rounding .trunc)
  | _ => none

def arity : Function → Nat
  | choice _ => 2
  | rounding _ => 1

def call? : Function → List Term → Option Term
  | choice f, [left, right] => some (.choose f left right)
  | rounding f, [t] => some (.round f t)
  | _, _ => none

end Function

end VideoScaler.Expression
