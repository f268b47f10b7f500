import VideoScaler.Device.Context
import VideoScaler.Error
import VideoScaler.Surface.Media

/-! Processing components of an accelerator runtime, and the runtime that makes them.

A component takes data in and hands results out; a result may not be ready when it is asked
for. What a component does to itself and to the surfaces it is given is up to it, also when
it reports a failure.
-/

set_option autoImplicit false

namespace VideoScaler

inductive Variant where
  | bool (value : Bool)
  | integer (value : Int64)
  | size (width height : Int32)
  deriving DecidableEq, Repr

namespace Variant

/-- The value as an integer; a truth value counts as one or zero. -/
def integer? : Variant → Option Int64
  | integer value => some value
  | bool value => some (if value then 1 else 0)
  | size _ _ => none

def size? : Variant → Option (Int32 × Int32)
  | size width height => some (width, height)
  | _ => none

end Variant

/-- What is handed to a component and what it hands out. A surface comes with one of its
holders. -/
inductive Data where
  | surface (s : Surface)
  | buffer (bytes : Bytes)

namespace Data

def discard (d : Data) (m : Media) : Media :=
  match d with
  | surface s => m.release s
  | buffer _ => m

end Data

def isNotReady : Except Status Data → Bool
  | .error status => status = .repeatLater
  | .ok _ => false

/-- The operations of components. A component that has taken data in is busy; a busy one
puts off its result only a limited number of times. -/
class Component (κ : Type) where
  setProperty : κ → String → Variant → Except Status Unit × κ
  property? : κ → String → Option Variant
  init : κ → SurfaceFormat → Int32 → Int32 → Except Status Unit × κ
  submit : κ → Data → Media → Attempt Status Unit × κ × Media
  query : κ → Media → Except Status Data × κ × Media
  terminate : κ → Media → Except Status Unit × κ × Media
  discard : κ → Media → Media
  Busy : κ → Prop
  /-- How often a busy component can put off its result. -/
  waits : κ → Nat
  busy_of_submit : ∀ c d m, (submit c d m).1 = .ok () → Busy (submit c d m).2.1
  waits_of_query : ∀ c m, Busy c → isNotReady (query c m).1 = true →
    Busy (query c m).2.1 ∧ waits (query c m).2.1 < waits c

namespace Component

variable {κ : Type} [Component κ]

/-- Ask a busy component for its result until it does not put it off, which happens fewer
than `bound` times. -/
def pollWithin : (bound : Nat) → (c : κ) → Busy c → waits c < bound → Media →
    Except Status Data × κ × Media
  | bound + 1, c, busy, within, m =>
    let r := query c m
    if h : isNotReady r.1 = true then
      pollWithin bound r.2.1 (waits_of_query c m busy h).1
        (Nat.lt_of_lt_of_le (waits_of_query c m busy h).2 (Nat.le_of_lt_succ within)) r.2.2
    else
      r

def poll (c : κ) (busy : Busy c) (m : Media) : Except Status Data × κ × Media :=
  pollWithin (waits c + 1) c busy (Nat.lt_succ_self _) m

end Component

/-- An accelerator runtime: what it says when it is asked for contexts and components. -/
structure Runtime (κ : Type) where
  name : String
  createContext : Except Status MemoryType
  deriveContext : NativeApi → Except Status MemoryType
  createComponent : MemoryType → String → Except Status κ

/-- The name under which runtimes know the component that scales and converts. -/
def converterName : String := "AMFVideoConverter"

namespace DeviceContext

variable {κ : Type}

def create (runtime : Runtime κ) : Except Error DeviceContext :=
  match runtime.createContext with
  | .ok memory => .ok ⟨runtime.name, memory⟩
  | .error status => .error (.resource (.createContext status))

/-- Make a context on a device. A device that owns one shares it; otherwise the device
needs a native interface that the runtime knows. -/
def derive (runtime : Runtime κ) (device : Device) : Except Error DeviceContext :=
  match device.context with
  | some context => .ok context
  | none =>
    match device.kind.api? with
    | none => .error (.device (.noContext device.kind))
    | some api =>
      match runtime.deriveContext api with
      | .ok memory => .ok ⟨runtime.name, memory⟩
      | .error status => .error (.resource (.deriveContext device.kind status))

def createComponent (runtime : Runtime κ) (context : DeviceContext) (id : String) :
    Except Error κ :=
  match runtime.createComponent context.memory id with
  | .ok component => .ok component
  | .error status => .error (.operation "CreateComponent" status)

end DeviceContext

end VideoScaler
