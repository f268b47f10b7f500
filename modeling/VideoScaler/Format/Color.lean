import VideoScaler.Text.Blank

/-! Color properties of frames: range, space, primaries and transfer characteristic.

Primaries and transfer characteristics carry the numeric codes of the video standards.
-/

set_option autoImplicit false

namespace VideoScaler

inductive ColorRange where
  | unspecified | limited | full
  deriving DecidableEq, Repr, Inhabited

namespace ColorRange

def all : List ColorRange :=
  [unspecified, limited, full]

def name : ColorRange → String
  | unspecified => "unspecified"
  | limited => "limited"
  | full => "full"

end ColorRange

inductive ColorSpace where
  | rgb | bt709 | unspecified | fcc | bt470bg | smpte170m | smpte240m | ycgco | bt2020ncl
  | bt2020cl
  deriving DecidableEq, Repr

namespace ColorSpace

instance : Inhabited ColorSpace := ⟨unspecified⟩

def all : List ColorSpace :=
  [rgb, bt709, unspecified, fcc, bt470bg, smpte170m, smpte240m, ycgco, bt2020ncl, bt2020cl]

def name : ColorSpace → String
  | rgb => "rgb"
  | bt709 => "bt709"
  | unspecified => "unspecified"
  | fcc => "fcc"
  | bt470bg => "bt470bg"
  | smpte170m => "smpte170m"
  | smpte240m => "smpte240m"
  | ycgco => "ycgco"
  | bt2020ncl => "bt2020-ncl"
  | bt2020cl => "bt2020-cl"

end ColorSpace

inductive Primaries where
  | bt709 | unspecified | bt470m | bt470bg | smpte170m | smpte240m | film | bt2020
  | smpte428 | smpte431 | smpte432 | jedecP22
  deriving DecidableEq, Repr

namespace Primaries

instance : Inhabited Primaries := ⟨unspecified⟩

def all : List Primaries :=
  [bt709, unspecified, bt470m, bt470bg, smpte170m, smpte240m, film, bt2020, smpte428,
    smpte431, smpte432, jedecP22]

def name : Primaries → String
  | bt709 => "bt709"
  | unspecified => "unspecified"
  | bt470m => "bt470m"
  | bt470bg => "bt470bg"
  | smpte170m => "smpte170m"
  | smpte240m => "smpte240m"
  | film => "film"
  | bt2020 => "bt2020"
  | smpte428 => "smpte428"
  | smpte431 => "smpte431"
  | smpte432 => "smpte432"
  | jedecP22 => "jedec-p22"

def code : Primaries → Int
  | bt709 => 1
  | unspecified => 2
  | bt470m => 4
  | bt470bg => 5
  | smpte170m => 6
  | smpte240m => 7
  | film => 8
  | bt2020 => 9
  | smpte428 => 10
  | smpte431 => 11
  | smpte432 => 12
  | jedecP22 => 22

def ofCode? (code : Int) : Option Primaries :=
  all.find? fun p => p.code == code

theorem ofCode?_code (p : Primaries) : ofCode? p.code = some p := by
  cases p <;> decide

end Primaries

inductive Transfer where
  | bt709 | unspecified | gamma22 | gamma28 | smpte170m | smpte240m | linear | log | logSqrt
  | iec61966_2_4 | bt1361Ecg | iec61966_2_1 | bt2020_10 | bt2020_12 | smpte2084 | smpte428
  | aribStdB67
  deriving DecidableEq, Repr

namespace Transfer

instance : Inhabited Transfer := ⟨unspecified⟩

def all : List Transfer :=
  [bt709, unspecified, gamma22, gamma28, smpte170m, smpte240m, linear, log, logSqrt,
    iec61966_2_4, bt1361Ecg, iec61966_2_1, bt2020_10, bt2020_12, smpte2084, smpte428,
    aribStdB67]

def name : Transfer → String
  | bt709 => "bt709"
  | unspecified => "unspecified"
  | gamma22 => "gamma22"
  | gamma28 => "gamma28"
  | smpte170m => "smpte170m"
  | smpte240m => "smpte240m"
  | linear => "linear"
  | log => "log"
  | logSqrt => "log-sqrt"
  | iec61966_2_4 => "iec61966-2-4"
  | bt1361Ecg => "bt1361-ecg"
  | iec61966_2_1 => "iec61966-2-1"
  | bt2020_10 => "bt2020-10"
  | bt2020_12 => "bt2020-12"
  | smpte2084 => "smpte2084"
  | smpte428 => "smpte428"
  | aribStdB67 => "arib-std-b67"

def code : Transfer → Int
  | bt709 => 1
  | unspecified => 2
  | gamma22 => 4
  | gamma28 => 5
  | smpte170m => 6
  | smpte240m => 7
  | linear => 8
  | log => 9
  | logSqrt => 10
  | iec61966_2_4 => 11
  | bt1361Ecg => 12
  | iec61966_2_1 => 13
  | bt2020_10 => 14
  | bt2020_12 => 15
  | smpte2084 => 16
  | smpte428 => 17
  | aribStdB67 => 18

def ofCode? (code : Int) : Option Transfer :=
  all.find? fun t => t.code == code

theorem ofCode?_code (t : Transfer) : ofCode? t.code = some t := by
  cases t <;> decide

end Transfer

structure ColorProperties where
  range : ColorRange := .unspecified
  space : ColorSpace := .unspecified
  primaries : Primaries := .unspecified
  transfer : Transfer := .unspecified
  deriving DecidableEq, Repr

end VideoScaler
