/-! Kinds of hardware devices, and the native graphics interfaces some of them have. -/

set_option autoImplicit false

namespace VideoScaler

/-- A graphics interface from whose devices the accelerator can derive a context. -/
inductive NativeApi where
  | d3d11 | dx9 | vulkan
  deriving DecidableEq, Repr

inductive DeviceKind where
  | amf | d3d11va | dxva2 | vulkan | vaapi | cuda | qsv
  deriving DecidableEq, Repr

namespace DeviceKind

def all : List DeviceKind :=
  [amf, d3d11va, dxva2, vulkan, vaapi, cuda, qsv]

def name : DeviceKind → String
  | amf => "amf"
  | d3d11va => "d3d11va"
  | dxva2 => "dxva2"
  | vulkan => "vulkan"
  | vaapi => "vaapi"
  | cuda => "cuda"
  | qsv => "qsv"

def ofName? (s : String) : Option DeviceKind :=
  all.find? fun k => k.name == s

def label : DeviceKind → String
  | amf => "Amf"
  | d3d11va => "D3d11va"
  | dxva2 => "Dxva2"
  | vulkan => "Vulkan"
  | vaapi => "Vaapi"
  | cuda => "Cuda"
  | qsv => "Qsv"

def api? : DeviceKind → Option NativeApi
  | d3d11va => some .d3d11
  | dxva2 => some .dx9
  | vulkan => some .vulkan
  | amf | vaapi | cuda | qsv => none

instance : ToString DeviceKind := ⟨name⟩

end DeviceKind

end VideoScaler
