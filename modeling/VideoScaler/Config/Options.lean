import VideoScaler.Error
import VideoScaler.Format.Color
import VideoScaler.Text.Blank

/-! The words of the scale options, and how option texts are read.

An option text is trimmed and its letter case does not matter. Some options know short
forms besides their names.
-/

set_option autoImplicit false

namespace VideoScaler

inductive ScaleAlgorithm where
  | bilinear | bicubic
  deriving DecidableEq, Repr

inductive ColorProfile where
  | bt601 | bt709 | bt2020 | jpeg
  deriving DecidableEq, Repr

inductive RangeOverride where
  | studio | full
  deriving DecidableEq, Repr

inductive AspectPolicy where
  | disable | decrease | increase
  deriving DecidableEq, Repr

namespace ScaleAlgorithm

def all : List ScaleAlgorithm :=
  [bilinear, bicubic]

def name : ScaleAlgorithm → String
  | bilinear => "bilinear"
  | bicubic => "bicubic"

def parse (s : String) : Except Error ScaleAlgorithm :=
  match Text.keyword s with
  | "bilinear" => .ok bilinear
  | "bicubic" => .ok bicubic
  | word => .error (.config (.unknownWord .scaleType word))

end ScaleAlgorithm

namespace ColorProfile

def all : List ColorProfile :=
  [bt601, bt709, bt2020, jpeg]

def name : ColorProfile → String
  | bt601 => "bt601"
  | bt709 => "bt709"
  | bt2020 => "bt2020"
  | jpeg => "jpeg"

def parse (s : String) : Except Error ColorProfile :=
  match Text.keyword s with
  | "bt601" => .ok bt601
  | "bt709" => .ok bt709
  | "bt2020" => .ok bt2020
  | "jpeg" => .ok jpeg
  | word => .error (.config (.unknownWord .colorProfile word))

end ColorProfile

namespace RangeOverride

def all : List RangeOverride :=
  [studio, full]

def name : RangeOverride → String
  | studio => "studio"
  | full => "full"

def parse (s : String) : Except Error RangeOverride :=
  match Text.keyword s with
  | "studio" | "limited" | "tv" => .ok studio
  | "full" | "pc" => .ok full
  | word => .error (.config (.unknownWord .colorRange word))

end RangeOverride

namespace AspectPolicy

def all : List AspectPolicy :=
  [disable, decrease, increase]

def name : AspectPolicy → String
  | disable => "disable"
  | decrease => "decrease"
  | increase => "increase"

def parse (s : String) : Except Error AspectPolicy :=
  match Text.keyword s with
  | "disable" | "0" => .ok disable
  | "decrease" | "1" => .ok decrease
  | "increase" | "2" => .ok increase
  | word => .error (.config (.unknownWord .aspectPolicy word))

end AspectPolicy

def Primaries.parse (s : String) : Except Error Primaries :=
  match all.find? fun p => p.name == Text.keyword s with
  | some p => .ok p
  | none => .error (.config (.unknownWord .primaries (Text.keyword s)))

def Transfer.parse (s : String) : Except Error Transfer :=
  match all.find? fun t => t.name == Text.keyword s with
  | some t => .ok t
  | none => .error (.config (.unknownWord .transfer (Text.keyword s)))

def PixelFormat.parse (s : String) : Except Error PixelFormat :=
  match ofName? s with
  | some f => .ok f
  | none => .error (.config (.unknownFormat s))

/-- Read an output format, where `same` stands for the format of the input. -/
def PixelFormat.parseOutput (s : String) : Except Error (Option PixelFormat) :=
  if Text.keyword s == "same" then .ok none else (parse s).map some

end VideoScaler
