import VideoScaler.Dimensions
import VideoScaler.Filter.Bridge
import VideoScaler.Filter.Negotiation
import VideoScaler.Filter.Scaler
import VideoScaler.Filter.Setup

/-! The scale filter: from its configuration over its output link to single frames. -/

set_option autoImplicit false

namespace VideoScaler

structure Configured where
  setup : Setup
  output : OutputLink

structure ScaleFilter (κ : Type) where
  scaler : Scaler κ
  configured : Option Configured
  config : ScaleConfig
  device : Option Device

namespace ScaleFilter

variable {κ : Type}

def init (config : ScaleConfig) (device : Option Device) : Except Error (ScaleFilter κ) :=
  config.validate.map fun _ => ⟨.new, none, config, device⟩

def output? (f : ScaleFilter κ) : Option OutputLink :=
  f.configured.map Configured.output

def source? (f : ScaleFilter κ) : Option ContextSource :=
  f.configured.map fun c => c.setup.source

def queryFormats (f : ScaleFilter κ) : Except Error FormatLists :=
  FormatLists.negotiate f.device

/-- The output format for a link when there is no other preference: the format of a bound
device, or else that of frames on a device. Frames in host memory keep the layout asked for
if it is offered, and go to the accelerator otherwise. -/
def preferredOutput (f : ScaleFilter κ) (link : InputLink) : Except Error PixelFormat := do
  let lists ← f.queryFormats
  if f.device.isSome then return lists.output.headD .amf
  if link.format.isHardware then return link.format
  let wanted := f.config.format.getD link.format
  return if lists.output.contains wanted then wanted else .amf

variable [Component κ]

/-- Terminate the converter, while its context and pool are still there. -/
def stop (f : ScaleFilter κ) (w : World) : ScaleFilter κ × World :=
  let (scaler, media) := f.scaler.terminate w.media
  ({ f with scaler }, { w with media })

/-- Terminate the converter, then give up its context and pool. -/
def uninit (f : ScaleFilter κ) (w : World) : ScaleFilter κ × World :=
  let (f, w) := f.stop w
  ({ f with configured := none }, w)

def checkFormats (f : ScaleFilter κ) (link : InputLink) (outFormat : PixelFormat) :
    Except Error Unit := do
  let lists ← f.queryFormats
  if !lists.input.contains link.format then
    .error (.config (.inputNotAccepted link.format))
  if !lists.output.contains outFormat then
    .error (.config (.outputNotOffered outFormat))

def dimensions (f : ScaleFilter κ) (link : InputLink) : Dimensions.Input :=
  ⟨link.width, link.height, link.sar, link.layout, f.config.format.getD link.layout⟩

def plan (f : ScaleFilter κ) (runtime : Runtime κ) (link : InputLink) (outFormat : PixelFormat)
    (w : World) : Except Error ((Resolution × Setup) × World) := do
  let size ← Dimensions.resolve f.config (f.dimensions link)
  let (setup, w) ← Setup.configure runtime link f.device outFormat size f.config.format w
  return ((size, setup), w)

def configure (f : ScaleFilter κ) (runtime : Runtime κ) (link : InputLink)
    (outFormat : PixelFormat) (w : World) : Except Error OutputLink × ScaleFilter κ × World :=
  match f.plan runtime link outFormat w with
  | .error e => (.error e, f, w)
  | .ok ((size, setup), w) =>
    -- A component of an earlier link goes before the new one is made.
    let (_, media) := f.scaler.terminate w.media
    let pool := setup.source.outputPool
    let (result, scaler, media) := Scaler.new.configure runtime setup.source.context
      pool.desc.swFormat size f.config setup.layout link.size media
    let f := { f with scaler }
    let w := { w with media }
    match result with
    | .error e => (.error e, f, w)
    | .ok () =>
      let output : OutputLink :=
        ⟨pool.desc.format, size.width, size.height, link.sar.rescale link.size size, pool⟩
      (.ok output, { f with configured := some ⟨setup, output⟩ }, w)

/-- Fix the output link. Formats that are not on offer leave the filter as it is; after any
other error it is not configured. -/
def configOutput (f : ScaleFilter κ) (runtime : Runtime κ) (link : InputLink)
    (outFormat : PixelFormat) (w : World) : Except Error OutputLink × ScaleFilter κ × World :=
  match f.checkFormats link outFormat with
  | .error e => (.error e, f, w)
  | .ok () =>
    let (f, w) := if f.configured.isSome then f.uninit w else (f, w)
    f.configure runtime link outFormat w

def finishFrame (config : ScaleConfig) (output : OutputLink) (input frame : Frame) : Frame :=
  { frame.copyProperties input with
    color := config.overrideColor input.color
    format := output.format
    width := output.width
    height := output.height
    pool := some output.pool
    sar := input.sar.rescale ⟨input.width, input.height⟩ output.size }

def convert (f : ScaleFilter κ) (input : Frame) (w : World) :
    Attempt Error Frame × ScaleFilter κ × World :=
  match f.configured with
  | none => (.error (.refused .notConfigured), f, w)
  | some c =>
    match Bridge.toSurface c.setup.source.context input w with
    | (.error failure, w) => (.error failure, f, w)
    | (.ok s, w) =>
      let (result, scaler, media) := f.scaler.process s w.media
      let f := { f with scaler }
      let w := { w with media }
      match result with
      | .error failure => (.error failure, f, w)
      | .ok s =>
        match Bridge.toFrame c.output.pool s w with
        | (.error failure, w) => (.error failure, f, w)
        | (.ok frame, w) => (.ok (finishFrame f.config c.output input frame), f, w)

/-- Scale a frame. The input is given up in any case. -/
def filterFrame (f : ScaleFilter κ) (input : Frame) (w : World) :
    Attempt Error Frame × ScaleFilter κ × World :=
  let (result, f, w) := f.convert input w
  (result, f, w.dropFrame input)

/-- Scale frames one after the other and hand each to a sink, until one of the two fails.
The answer is how many frames the sink has taken, or the failure; frames that are left over
are given up. -/
def run {σ : Type} (sink : σ → Frame → World → Attempt Error Unit × σ × World) :
    List Frame → Nat → ScaleFilter κ → σ → World → Attempt Error Nat × ScaleFilter κ × σ × World
  | [], taken, f, state, w => (.ok taken, f, state, w)
  | frame :: frames, taken, f, state, w =>
    match f.filterFrame frame w with
    -- The frame itself is given up by then, and only those behind it are left over.
    | (.error failure, f, w) => (.error failure, f, state, frames.foldl World.dropFrame w)
    | (.ok out, f, w) =>
      match sink state out w with
      | (.error failure, state, w) => (.error failure, f, state, frames.foldl World.dropFrame w)
      | (.ok (), state, w) => run sink frames (taken + 1) f state w

end ScaleFilter

end VideoScaler
