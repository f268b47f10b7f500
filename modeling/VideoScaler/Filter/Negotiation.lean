import VideoScaler.Device.Context
import VideoScaler.Error

/-! Which formats a scale filter takes in and hands out. -/

set_option autoImplicit false

namespace VideoScaler

structure FormatLists where
  input : List PixelFormat
  output : List PixelFormat
  deriving DecidableEq, Repr

namespace FormatLists

/-- The formats taken in besides those handed out. -/
def inputFormats : List PixelFormat :=
  [.nv12, .p010, .zrgb, .bgr0, .bgra, .rgb0, .rgba, .gray8, .yuv420p, .yuv420p10, .yuyv422,
    .amf]

def outputFormats : List PixelFormat :=
  [.amf, .d3d11, .dxva2, .nv12, .bgra, .yuv420p]

def deviceFormat (kind : DeviceKind) : Except Error PixelFormat :=
  match kind with
  | .d3d11va => .ok .d3d11
  | .dxva2 => .ok .dxva2
  | .amf => .ok .amf
  | kind => .error (.device (.noFormats kind))

def ofOutput (output : List PixelFormat) : FormatLists :=
  ⟨output ++ inputFormats.filter fun f => !output.contains f, output⟩

/-- A bound device restricts the output to its own format. -/
def negotiate (device : Option Device) : Except Error FormatLists :=
  match device with
  | some device => (deviceFormat device.kind).map fun format => ofOutput [format]
  | none => .ok (ofOutput outputFormats)

end FormatLists

end VideoScaler
