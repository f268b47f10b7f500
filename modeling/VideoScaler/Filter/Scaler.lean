import VideoScaler.Component.Converter
import VideoScaler.Filter.Color
import VideoScaler.Resolution

/-! A converter component from its setup to its end. -/

set_option autoImplicit false

namespace VideoScaler

inductive ScalerState where
  | uninitialized | configured | running | terminated
  deriving DecidableEq, Repr

def ScalerState.name : ScalerState → String
  | uninitialized => "Uninitialized"
  | configured => "Configured"
  | running => "Running"
  | terminated => "Terminated"

structure Scaler (κ : Type) where
  component : Option κ
  state : ScalerState
  /-- The surfaces converted so far. -/
  frames : Nat

namespace Scaler

variable {κ : Type}

def new : Scaler κ :=
  ⟨none, .uninitialized, 0⟩

def algorithmProperty : ScaleAlgorithm → Int64
  | .bilinear => 0
  | .bicubic => 1

def settings (config : ScaleConfig) (format : SurfaceFormat) (size : Resolution) :
    List (String × Variant) :=
  [(Property.outputFormat, .integer (Int64.ofInt format.code)),
    (Property.outputSize, .size size.width.toInt32 size.height.toInt32),
    (Property.scaleType, .integer (algorithmProperty config.algorithm))]
  ++ (config.profileProperty?.map fun code => (Property.colorProfile, .integer code)).toList
  ++ (config.range.map fun range =>
    (Property.outputColorRange, .integer range.property)).toList
  ++ (config.primariesOverride.map fun primaries =>
    (Property.outputPrimaries, .integer (Int64.ofInt primaries.code))).toList
  ++ (config.transferOverride.map fun transfer =>
    (Property.outputTransfer, .integer (Int64.ofInt transfer.code))).toList

variable [Component κ]

def applySettings (c : κ) : List (String × Variant) → Except Error Unit × κ
  | [] => (.ok (), c)
  | (name, value) :: rest =>
    match Component.setProperty c name value with
    | (.ok (), c) => applySettings c rest
    | (.error status, c) => (.error (.operation "SetProperty" status), c)

def prepare (c : κ) (settings : List (String × Variant)) (input : SurfaceFormat)
    (size : Resolution) : Except Error Unit × κ :=
  match applySettings c settings with
  | (.error e, c) => (.error e, c)
  | (.ok (), c) =>
    match Component.init c input size.width.toInt32 size.height.toInt32 with
    | (.ok (), c) => (.ok (), c)
    | (.error status, c) => (.error (.operation "Init" status), c)

/-- Make a component and get it ready. A component that does not get ready is given up. -/
def configure (s : Scaler κ) (runtime : Runtime κ) (context : DeviceContext)
    (outFormat : PixelFormat) (outSize : Resolution) (config : ScaleConfig)
    (inFormat : PixelFormat) (inSize : Resolution) (m : Media) :
    Except Error Unit × Scaler κ × Media :=
  if s.state ≠ .uninitialized then
    (.error (.internal (.configureState s.state.name)), s, m)
  else if SurfaceFormat.ofPixelFormat outFormat = .unknown then
    (.error (.config (.converterOutput outFormat)), s, m)
  else if SurfaceFormat.ofPixelFormat inFormat = .unknown then
    (.error (.config (.converterInput inFormat)), s, m)
  else
    match context.createComponent runtime converterName with
    | .error e => (.error e, s, m)
    | .ok c =>
      let settings := settings config (.ofPixelFormat outFormat) outSize
      -- A context outlives its components; only the component is given up on an error.
      match prepare c settings (.ofPixelFormat inFormat) inSize with
      | (.error e, c) => (.error e, s, Component.discard c m)
      | (.ok (), c) => (.ok (), { s with component := some c, state := .configured }, m)

def isReady (s : Scaler κ) : Bool :=
  s.state = .configured || s.state = .running

def exchange (c : κ) (input : Surface) (m : Media) : Attempt Error Surface × κ × Media :=
  let r := Component.submit c (.surface input) m
  match h : r.1 with
  | .error failure => (.error (failure.map (Error.operation "SubmitInput")), r.2)
  | .ok () =>
    -- The component is busy with what it took in, so polling comes to an end.
    match Component.poll r.2.1 (Component.busy_of_submit c (.surface input) m h) r.2.2 with
    | (.error status, rest) => (.error (.refused (.operation "QueryOutput" status)), rest)
    | (.ok (.buffer _), rest) =>
      (.error (.refused (.operation "QueryOutput" .noInterface)), rest)
    | (.ok (.surface output), rest) => (.ok output, rest)

/-- Convert one surface, taking over the holder of the caller. -/
def process (s : Scaler κ) (input : Surface) (m : Media) :
    Attempt Error Surface × Scaler κ × Media :=
  match s.component with
  | none => (.error (.refused .notConfigured), s, m.release input)
  | some c =>
    if s.isReady then
      match exchange c input m with
      | (.ok output, c, m) =>
        (.ok output, ⟨some c, .running, s.frames + 1⟩, m)
      | (.error failure, c, m) => (.error failure, ⟨some c, .running, s.frames⟩, m)
    else
      (.error (.refused .notConfigured), s, m.release input)

def terminate (s : Scaler κ) (m : Media) : Scaler κ × Media :=
  let state := if s.state = .uninitialized then .uninitialized else .terminated
  match s.component with
  | none => ({ s with state }, m)
  | some c =>
    let (_, c, m) := Component.terminate c m
    ({ s with component := none, state }, Component.discard c m)

end Scaler

end VideoScaler
