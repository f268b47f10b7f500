import VideoScaler.Component.Basic
import VideoScaler.Workbench.Answer

/-! Contexts, devices and pools at a workbench. -/

set_option autoImplicit false

namespace VideoScaler

inductive DeviceCommand where
  /-- Derive a context from a device, or create one without. -/
  | context (device : Option String) (name : String)
  | native (kind : DeviceKind) (handle : UInt64) (name : String)
  /-- The device that owns a context. -/
  | accelerator (context : String) (name : String)
  | pool (device : String) (desc : PoolDesc) (name : String)
  | showPool (pool : String)
  /-- Take a new frame out of a pool. -/
  | takeFrame (pool : String) (name : String)

namespace DeviceCommand

variable {κ : Type} [Component κ]

def perform (runtime : Runtime κ) : DeviceCommand → Action κ Answer
  | context device name => do
    let device ← Action.optional Action.device device
    let c ← Action.ofError <| match device with
      | some device => DeviceContext.derive runtime device
      | none => DeviceContext.create runtime
    Action.store name (.context c)
    return .text c.text
  | native kind handle name => do
    let d := Device.native kind handle
    Action.store name (.device d)
    return .text d.text
  | accelerator owned name => do
    let d := Device.accelerator (← Action.context owned)
    Action.store name (.device d)
    return .text d.text
  | pool device desc name => do
    let device ← Action.device device
    let (p, w) ← Action.ofError ((← Action.world).addPool device desc)
    Action.setWorld w
    let answer ← Action.showPool p
    Action.store name (.pool p)
    return answer
  | showPool shown => do
    Action.showPool (← Action.pool shown)
  | takeFrame source name => do
    let p ← Action.pool source
    let f ← Action.onWorld fun w => w.newFrame p
    let answer ← Action.showFrame f
    Action.store name (.frame f)
    return answer

end DeviceCommand

end VideoScaler
