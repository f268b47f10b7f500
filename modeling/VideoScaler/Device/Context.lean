import VideoScaler.Device.Kind
import VideoScaler.Format.Surface

/-! Devices, and contexts of an accelerator runtime on them. -/

set_option autoImplicit false

namespace VideoScaler

structure DeviceContext where
  runtime : String
  memory : MemoryType
  deriving DecidableEq, Repr

/-- A device bound to a pipeline or a pool: a native one known by its handle, or one that
owns a context. -/
structure Device where
  kind : DeviceKind
  handle : UInt64
  context : Option DeviceContext
  deriving DecidableEq, Repr

namespace DeviceContext

def text (c : DeviceContext) : String :=
  "DeviceContext \x7b factory: \"" ++ c.runtime ++ "\", memory: " ++ c.memory.name ++ " \x7d"

end DeviceContext

namespace Device

def native (kind : DeviceKind) (handle : UInt64) : Device :=
  ⟨kind, handle, none⟩

/-- The device of the accelerator itself, owning a context. -/
def accelerator (context : DeviceContext) : Device :=
  ⟨.amf, 0, some context⟩

def text (d : Device) : String :=
  let context := match d.context with
    | some c => "Some(" ++ c.text ++ ")"
    | none => "None"
  "HwDevice \x7b device_type: " ++ d.kind.label ++ ", handle: " ++ toString d.handle
    ++ ", context: " ++ context ++ " \x7d"

end Device

end VideoScaler
