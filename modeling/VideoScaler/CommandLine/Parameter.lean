import VideoScaler.Number.Integer

/-! The parameters of the scale command. -/

set_option autoImplicit false

namespace VideoScaler.CommandLine

inductive Parameter where
  | input | output | size | pixelFormat | config | width | height | format | algorithm
  | profile | range | primaries | transfer | aspect | divisor | frames
  deriving DecidableEq, Repr

inductive ValueKind where
  | text
  /-- A path, which is not empty. -/
  | path
  /-- A number of 32 bits, which may be written with any sign. -/
  | number32
  /-- A number of 64 bits, which may be written with a plus sign. -/
  | number64
  deriving DecidableEq, Repr

def readNumber32? (s : String) : Option Nat := do
  let n ← Number.readSigned? s.toList
  if 0 ≤ n ∧ n ≤ 4294967295 then some n.toNat else none

def readNumber64? (s : String) : Option Nat :=
  Number.readUnsigned? 18446744073709551615 s.toList

def ValueKind.accepts : ValueKind → String → Bool
  | text, _ => true
  | path, s => !s.isEmpty
  | number32, s => (readNumber32? s).isSome
  | number64, s => (readNumber64? s).isSome

namespace Parameter

def all : List Parameter :=
  [input, output, size, pixelFormat, config, width, height, format, algorithm, profile, range,
    primaries, transfer, aspect, divisor, frames]

def word : Parameter → String
  | input => "input"
  | output => "output"
  | size => "size"
  | pixelFormat => "pix-fmt"
  | config => "config"
  | width => "width"
  | height => "height"
  | format => "format"
  | algorithm => "scale-type"
  | profile => "color-profile"
  | range => "color-range"
  | primaries => "primaries"
  | transfer => "trc"
  | aspect => "force-original-aspect-ratio"
  | divisor => "force-divisible-by"
  | frames => "frames"

def letter? : Parameter → Option Char
  | input => some 'i'
  | output => some 'o'
  | size => some 's'
  | config => some 'c'
  | width => some 'W'
  | height => some 'H'
  | format => some 'f'
  | frames => some 'n'
  | _ => none

def kind : Parameter → ValueKind
  | input | output | config => .path
  | divisor => .number32
  | frames => .number64
  | _ => .text

def isRequired : Parameter → Bool
  | input | output | size => true
  | _ => false

def summary : Parameter → String
  | input => "Input raw video file"
  | output => "Output raw video file"
  | size => "Input frame size (e.g., 1920x1080)"
  | pixelFormat => "Input pixel format [default: nv12]"
  | config => "TOML config file; command-line options override it"
  | width => "Output width expression"
  | height => "Output height expression"
  | format => "Output pixel format, or \"same\""
  | algorithm => "Scaling algorithm (bilinear, bicubic)"
  | profile => "Color profile (bt601, bt709, bt2020, jpeg)"
  | range => "Output color range (studio, full)"
  | primaries => "Output color primaries"
  | transfer => "Output transfer characteristic"
  | aspect => "Keep the input aspect ratio (disable, decrease, increase)"
  | divisor => "Round the output size to a multiple of this"
  | frames => "Stop after this many frames"

end Parameter

end VideoScaler.CommandLine
