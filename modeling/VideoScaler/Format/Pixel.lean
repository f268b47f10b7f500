import VideoScaler.Format.Shape
import VideoScaler.Text.Blank

/-! Pixel formats of frames: layouts in host memory, and the opaque formats of frames that
live on a device. -/

set_option autoImplicit false

namespace VideoScaler

inductive PixelFormat where
  | nv12 | p010 | zrgb | bgr0 | bgra | rgb0 | rgba | argb | gray8 | yuv420p | yuv420p10
  | yuyv422 | amf | d3d11 | dxva2
  deriving DecidableEq, Repr

namespace PixelFormat

def all : List PixelFormat :=
  [nv12, p010, zrgb, bgr0, bgra, rgb0, rgba, argb, gray8, yuv420p, yuv420p10, yuyv422, amf,
    d3d11, dxva2]

theorem mem_all (f : PixelFormat) : f ∈ all := by
  cases f <;> decide

def name : PixelFormat → String
  | nv12 => "nv12"
  | p010 => "p010"
  | zrgb => "0rgb"
  | bgr0 => "bgr0"
  | bgra => "bgra"
  | rgb0 => "rgb0"
  | rgba => "rgba"
  | argb => "argb"
  | gray8 => "gray8"
  | yuv420p => "yuv420p"
  | yuv420p10 => "yuv420p10"
  | yuyv422 => "yuyv422"
  | amf => "amf"
  | d3d11 => "d3d11"
  | dxva2 => "dxva2_vld"

def ofExactName? (s : String) : Option PixelFormat :=
  all.find? fun f => f.name == s

def canonicalName : String → String
  | "p010le" => "p010"
  | "yuv420p10le" => "yuv420p10"
  | "yuy2" => "yuyv422"
  | "gray" => "gray8"
  | "dxva2" => "dxva2_vld"
  | other => other

/-- The format a user names: blanks around the name, letter case and aliases do not matter. -/
def ofName? (s : String) : Option PixelFormat :=
  ofExactName? (canonicalName (Text.keyword s))

theorem ofExactName?_name (f : PixelFormat) : ofExactName? f.name = some f := by
  cases f <;> decide

/-- Does a frame of this format live on a device? -/
def isHardware : PixelFormat → Bool
  | amf | d3d11 | dxva2 => true
  | _ => false

def isRgb : PixelFormat → Bool
  | zrgb | bgr0 | bgra | rgb0 | rgba | argb => true
  | _ => false

def chromaShift : PixelFormat → Nat × Nat
  | nv12 | p010 | yuv420p | yuv420p10 => (1, 1)
  | yuyv422 => (1, 0)
  | _ => (0, 0)

def shapes (f : PixelFormat) (width height : Nat) : List Format.Shape :=
  let cw := Format.half width
  let ch := Format.half height
  match f with
  | nv12 => [⟨width, height⟩, ⟨cw * 2, ch⟩]
  | p010 => [⟨width * 2, height⟩, ⟨cw * 4, ch⟩]
  | zrgb | bgr0 | bgra | rgb0 | rgba | argb => [⟨width * 4, height⟩]
  | gray8 => [⟨width, height⟩]
  | yuv420p => [⟨width, height⟩, ⟨cw, ch⟩, ⟨cw, ch⟩]
  | yuv420p10 => [⟨width * 2, height⟩, ⟨cw * 2, ch⟩, ⟨cw * 2, ch⟩]
  | yuyv422 => [⟨cw * 4, height⟩]
  | amf | d3d11 | dxva2 => []

theorem shapes_eq_nil_iff (f : PixelFormat) (width height : Nat) :
    f.shapes width height = [] ↔ f.isHardware = true := by
  cases f <;> simp [shapes, isHardware]

instance : ToString PixelFormat := ⟨name⟩

end PixelFormat

end VideoScaler
