import VideoScaler.Device.Kind
import VideoScaler.Expression.Defect
import VideoScaler.Format.Surface
import VideoScaler.Number.LittleEndian
import VideoScaler.Status

/-! Errors of the library.

Each constructor is a cause; the wording of all of them is in the `message` functions. A
`Failure` tells an error apart from a breach, which no caller is meant to handle.
-/

set_option autoImplicit false

namespace VideoScaler

inductive OptionKind where
  | scaleType | colorProfile | colorRange | aspectPolicy | primaries | transfer
  deriving DecidableEq, Repr

inductive ConfigError where
  | note (reason : String)
  | resolutionText (text : String)
  | resolutionWidth (text : String)
  | resolutionHeight (text : String)
  | unknownFormat (text : String)
  | unknownWord (option : OptionKind) (word : String)
  | divisorRange (divisor : UInt32)
  | hardwareOutput (format : PixelFormat)
  | unresolvedSize (width height : Int64)
  | inputNotAccepted (format : PixelFormat)
  | outputNotOffered (format : PixelFormat)
  | missingPool (format : PixelFormat)
  | poolInputLayout (format : PixelFormat)
  | conflictingOutput (wanted negotiated : PixelFormat)
  | poolSize (width height : UInt32)
  | poolLayout (format : PixelFormat)
  | converterOutput (format : PixelFormat)
  | converterInput (format : PixelFormat)
  deriving DecidableEq, Repr

inductive DeviceError where
  | note (reason : String)
  | noContext (kind : DeviceKind)
  | noFormats (kind : DeviceKind)
  deriving DecidableEq, Repr

inductive ResourceError where
  | note (reason : String)
  | createContext (status : Status)
  | deriveContext (kind : DeviceKind) (status : Status)
  | allocSurface (status : Status)
  | wrapTexture (status : Status)
  | wrapDx9 (status : Status)
  deriving DecidableEq, Repr

inductive FormatError where
  | note (reason : String)
  | noSurfaceFormat (format : PixelFormat)
  | planeCount (format : PixelFormat) (got wanted : Nat)
  | planeTooSmall (format : PixelFormat) (plane : Nat)
  | memoryForOutput (memory : MemoryType) (format : PixelFormat)
  | surfaceMismatch (surface : SurfaceFormat) (format : PixelFormat)
  | missingPlane (plane : Nat)
  deriving DecidableEq, Repr

inductive InternalError where
  | note (reason : String)
  /-- The scaler was configured in a state, named here, that does not allow it. -/
  | configureState (state : String)
  | textureIndex (index : Nat)
  | bufferReleased
  | stageBroke
  deriving DecidableEq, Repr

inductive Error where
  | config (cause : ConfigError)
  | expression (source : String) (defect : Expression.Defect)
  | device (cause : DeviceError)
  | configFile
  | resource (cause : ResourceError)
  | format (cause : FormatError)
  | operation (name : String) (status : Status)
  | notConfigured
  | stageClosed
  | file (reason : String)
  | internal (cause : InternalError)

def OptionKind.complaint (option : OptionKind) (word : String) : String :=
  match option with
  | scaleType => "Unknown scale type: " ++ word
  | colorProfile => "Unknown color profile: " ++ word
  | colorRange => "Unknown color range: " ++ word
  | aspectPolicy => "Unknown aspect ratio policy: " ++ word
  | primaries => "Unknown ColorPrimaries value: " ++ word
  | transfer => "Unknown TransferCharacteristic value: " ++ word

def ConfigError.message : ConfigError → String
  | note reason => reason
  | resolutionText text => "Invalid resolution '" ++ text ++ "', expected WxH"
  | resolutionWidth text => "Invalid width in '" ++ text ++ "'"
  | resolutionHeight text => "Invalid height in '" ++ text ++ "'"
  | unknownFormat text => "Unrecognized pixel format: " ++ text
  | unknownWord option word => option.complaint word
  | divisorRange divisor => s!"force_divisible_by must be in 1..=256, got {divisor}"
  | hardwareOutput format => s!"Output format must be a pixel layout, got {format}"
  | unresolvedSize width height =>
    "Resolved output size " ++ toString width.toInt ++ "x" ++ toString height.toInt
      ++ " is invalid"
  | inputNotAccepted format => s!"Input format {format} is not accepted"
  | outputNotOffered format => s!"Output format {format} is not offered"
  | missingPool format => s!"Input format {format} requires a hardware frame pool"
  | poolInputLayout format =>
    s!"Format of input frames context ({format}) is not supported by the accelerator"
  | conflictingOutput wanted negotiated =>
    s!"Output format {wanted} conflicts with negotiated host format {negotiated}"
  | poolSize width height => s!"Invalid frame pool size {width}x{height}"
  | poolLayout format => s!"Frame pool sub-format {format} is not a pixel layout"
  | converterOutput format => s!"Output format {format} is not supported by the converter"
  | converterInput format => s!"Input format {format} is not supported by the converter"

def DeviceError.message : DeviceError → String
  | note reason => reason
  | noContext kind => s!"Cannot derive an accelerator context from a {kind} device"
  | noFormats kind => s!"Unsupported device type {kind} for format negotiation"

def ResourceError.message : ResourceError → String
  | note reason => reason
  | createContext status => s!"Failed to create accelerator context: {status}"
  | deriveContext kind status => s!"Failed to derive context from {kind} device: {status}"
  | allocSurface status => s!"AllocSurface() failed with error {status}"
  | wrapTexture status => s!"CreateSurfaceFromDX11Native() failed with error {status}"
  | wrapDx9 status => s!"CreateSurfaceFromDX9Native() failed with error {status}"

def FormatError.message : FormatError → String
  | note reason => reason
  | noSurfaceFormat format => s!"Pixel format {format} has no accelerator surface format"
  | planeCount format got wanted => s!"Frame has {got} planes, {format} needs {wanted}"
  | planeTooSmall format plane => s!"Plane {plane} of {format} frame is too small"
  | memoryForOutput memory format => s!"Unsupported memory type {memory} for {format} output"
  | surfaceMismatch surface format =>
    s!"Surface format {surface} does not match output format {format}"
  | missingPlane plane => s!"Surface is missing plane {plane}"

def InternalError.message : InternalError → String
  | note reason => reason
  | configureState state => s!"Scaler cannot be configured in state {state}"
  | textureIndex index => s!"Texture array index {index} out of range"
  | bufferReleased => "Input frame buffer was already released"
  | stageBroke => "Scale stage thread panicked"

namespace Error

/-- The wording of an error. The text of a configuration file that cannot be read as such
is left to the reader of the file. -/
def message : Error → String
  | config cause => "Configuration error: " ++ cause.message
  | expression source defect =>
    "Invalid dimension expression '" ++ source ++ "': " ++ defect.message
  | device cause => "Unsupported device: " ++ cause.message
  | configFile => "Failed to parse config file"
  | resource cause => "Resource allocation failed: " ++ cause.message
  | format cause => "Unsupported format: " ++ cause.message
  | operation name status => name ++ " failed with error " ++ status.text
  | notConfigured => "Scaler not configured"
  | stageClosed => "Stage closed"
  | file reason => "IO error: " ++ reason
  | internal cause => "Internal error: " ++ cause.message

/-- Does the error come from what the user asked for? -/
def isConfiguration : Error → Bool
  | config _ | expression _ _ | device _ | configFile => true
  | _ => false

def status? : Error → Option Status
  | operation _ status => some status
  | _ => none

/-- A failed operation concerns one frame only, so a stream may go on after it. -/
def isRecoverable (e : Error) : Bool :=
  e.status?.isSome

end Error

/-- What breaks an action off. -/
inductive Breach where
  /-- An access outside of what exists. -/
  | outOfRange
  /-- An array of more bytes than an array can have. -/
  | tooLarge
  deriving DecidableEq, Repr

/-- How an action can fail: with an error, or by a breach. -/
inductive Failure (ε : Type) where
  | refused (error : ε)
  | broken (breach : Breach)

namespace Failure

variable {ε δ : Type}

def map (f : ε → δ) : Failure ε → Failure δ
  | refused e => refused (f e)
  | broken breach => broken breach

end Failure

abbrev Attempt (ε α : Type) := Except (Failure ε) α

namespace Attempt

variable {ε δ α : Type}

def ofOption : Option α → Attempt ε α
  | some a => .ok a
  | none => .error (.broken .outOfRange)

/-- Make arrays of these sizes. -/
def room (sizes : List Nat) : Attempt ε Unit :=
  if Bytes.Fit sizes then .ok () else .error (.broken .tooLarge)

theorem room_of_fit {sizes : List Nat} (fit : Bytes.Fit sizes) :
    (room sizes : Attempt ε Unit) = .ok () :=
  if_pos fit

theorem room_of_not_fit {sizes : List Nat} (large : ¬ Bytes.Fit sizes) :
    (room sizes : Attempt ε Unit) = .error (.broken .tooLarge) :=
  if_neg large

def ofExcept : Except ε α → Attempt ε α
  | .ok a => .ok a
  | .error e => .error (.refused e)

def mapRefusal (f : ε → δ) : Attempt ε α → Attempt δ α
  | .ok a => .ok a
  | .error e => .error (e.map f)

end Attempt

end VideoScaler
