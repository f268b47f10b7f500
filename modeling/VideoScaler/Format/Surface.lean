import VideoScaler.Format.Pixel

/-! Sample layouts of accelerator surfaces, their numeric codes, and the pixel formats they
stand for. -/

set_option autoImplicit false

namespace VideoScaler

inductive SurfaceFormat where
  | unknown | nv12 | yv12 | bgra | argb | rgba | gray8 | yuv420p | yuy2 | p010
  deriving DecidableEq, Repr

namespace SurfaceFormat

def name : SurfaceFormat → String
  | unknown => "Unknown"
  | nv12 => "Nv12"
  | yv12 => "Yv12"
  | bgra => "Bgra"
  | argb => "Argb"
  | rgba => "Rgba"
  | gray8 => "Gray8"
  | yuv420p => "Yuv420p"
  | yuy2 => "Yuy2"
  | p010 => "P010"

def code : SurfaceFormat → Int
  | unknown => 0
  | nv12 => 1
  | yv12 => 2
  | bgra => 3
  | argb => 4
  | rgba => 5
  | gray8 => 6
  | yuv420p => 7
  | yuy2 => 9
  | p010 => 10

/-- The layout with this code; every other code means an unknown layout. -/
def ofCode : Int → SurfaceFormat
  | 1 => nv12
  | 2 => yv12
  | 3 => bgra
  | 4 => argb
  | 5 => rgba
  | 6 => gray8
  | 7 => yuv420p
  | 9 => yuy2
  | 10 => p010
  | _ => unknown

theorem ofCode_code (f : SurfaceFormat) : ofCode f.code = f := by
  cases f <;> rfl

/-- The layout that holds pictures of a pixel format; `unknown` when there is none. -/
def ofPixelFormat : PixelFormat → SurfaceFormat
  | .nv12 => nv12
  | .bgr0 | .bgra => bgra
  | .rgb0 | .rgba => rgba
  | .zrgb | .argb => argb
  | .gray8 => gray8
  | .yuv420p => yuv420p
  | .yuyv422 => yuy2
  | .p010 => p010
  | .yuv420p10 | .amf | .d3d11 | .dxva2 => unknown

def pixelFormat? : SurfaceFormat → Option PixelFormat
  | nv12 => some .nv12
  | bgra => some .bgra
  | rgba => some .rgba
  | argb => some .argb
  | gray8 => some .gray8
  | yuv420p => some .yuv420p
  | yuy2 => some .yuyv422
  | p010 => some .p010
  | yv12 | unknown => none

def isRgb : SurfaceFormat → Bool
  | bgra | argb | rgba => true
  | _ => false

def shapes (f : SurfaceFormat) (width height : Nat) : List Format.Shape :=
  let cw := Format.half width
  let ch := Format.half height
  match f with
  | nv12 => [⟨width, height⟩, ⟨cw * 2, ch⟩]
  | p010 => [⟨width * 2, height⟩, ⟨cw * 4, ch⟩]
  | yv12 | yuv420p => [⟨width, height⟩, ⟨cw, ch⟩, ⟨cw, ch⟩]
  | bgra | argb | rgba => [⟨width * 4, height⟩]
  | gray8 => [⟨width, height⟩]
  | yuy2 => [⟨cw * 4, height⟩]
  | unknown => []

theorem shapes_eq_nil_iff (f : SurfaceFormat) (width height : Nat) :
    f.shapes width height = [] ↔ f = unknown := by
  cases f <;> simp [shapes]

theorem shapes_ofPixelFormat {f : PixelFormat} (h : ofPixelFormat f ≠ unknown)
    (width height : Nat) : (ofPixelFormat f).shapes width height = f.shapes width height := by
  cases f <;> simp [ofPixelFormat, shapes, PixelFormat.shapes] at h ⊢

instance : ToString SurfaceFormat := ⟨name⟩

end SurfaceFormat

inductive MemoryType where
  | unknown | host | dx9 | dx11 | openCl | openGl | vulkan | dx12
  deriving DecidableEq, Repr

namespace MemoryType

def all : List MemoryType :=
  [unknown, host, dx9, dx11, openCl, openGl, vulkan, dx12]

def name : MemoryType → String
  | unknown => "Unknown"
  | host => "Host"
  | dx9 => "Dx9"
  | dx11 => "Dx11"
  | openCl => "OpenCl"
  | openGl => "OpenGl"
  | vulkan => "Vulkan"
  | dx12 => "Dx12"

def code : MemoryType → Nat
  | unknown => 0
  | host => 1
  | dx9 => 2
  | dx11 => 3
  | openCl => 4
  | openGl => 5
  | vulkan => 10
  | dx12 => 11

def ofName? (s : String) : Option MemoryType :=
  all.find? fun m => m.name == s

instance : ToString MemoryType := ⟨name⟩

end MemoryType

end VideoScaler
