/-! Color matrices: between luma with two color differences, and red, green and blue.

Samples are on the scale of eight bits. The full range runs from 0 to 255; the limited one
from 16 to 235 for luma and from 16 to 240 for color differences, which are zero at 128.
-/

set_option autoImplicit false

namespace VideoScaler.Conversion

inductive ColorMatrix where
  | bt601 | bt709 | bt2020
  deriving DecidableEq, Repr

namespace ColorMatrix

def red : ColorMatrix → Float32
  | bt601 => 0.299
  | bt709 => 0.2126
  | bt2020 => 0.2627

def blue : ColorMatrix → Float32
  | bt601 => 0.114
  | bt709 => 0.0722
  | bt2020 => 0.0593

def green (m : ColorMatrix) : Float32 :=
  1 - m.red - m.blue

def toRgb (m : ColorMatrix) (fullRange : Bool) (y u v : Float32) :
    Float32 × Float32 × Float32 :=
  let (yn, un, vn) :=
    if fullRange then (y / 255, (u - 128) / 255, (v - 128) / 255)
    else ((y - 16) / 219, (u - 128) / 224, (v - 128) / 224)
  let r := yn + 2 * (1 - m.red) * vn
  let b := yn + 2 * (1 - m.blue) * un
  let g := (yn - m.red * r - m.blue * b) / m.green
  (r * 255, g * 255, b * 255)

def toYuv (m : ColorMatrix) (fullRange : Bool) (r g b : Float32) :
    Float32 × Float32 × Float32 :=
  let r := r / 255
  let g := g / 255
  let b := b / 255
  let yn := m.red * r + m.green * g + m.blue * b
  let un := (b - yn) / (2 * (1 - m.blue))
  let vn := (r - yn) / (2 * (1 - m.red))
  if fullRange then (yn * 255, un * 255 + 128, vn * 255 + 128)
  else (16 + 219 * yn, 128 + 224 * un, 128 + 224 * vn)

end ColorMatrix

end VideoScaler.Conversion
