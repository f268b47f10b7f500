import VideoScaler.CommandLine.Invocation
import VideoScaler.CommandLine.RawVideo
import VideoScaler.Filter.Basic

/-! Scaling raw video into raw video of another size or format. -/

set_option autoImplicit false

namespace VideoScaler.CommandLine

inductive Complaint where
  | cannotLoad (path : String)
  | cannotOpen (path : String)
  | cannotCreate (path : String)
  | hardwareInput (format : PixelFormat)
  | noHostOutput (format : PixelFormat)
  | error (e : Error)

def Complaint.message : Complaint → String
  | cannotLoad path => "Failed to load " ++ path
  | cannotOpen path => "Failed to open " ++ path
  | cannotCreate path => "Failed to create " ++ path
  | hardwareInput format => "Input format must be a pixel layout, got " ++ format.name
  | noHostOutput format => format.name ++ " is not a host output format"
  | error e => e.message

structure Job where
  format : PixelFormat
  size : Resolution
  filter : ScaleFilter Converter
  output : OutputLink
  world : World

structure JobResult where
  output : Bytes
  frames : Attempt Error Nat
  created : Nat
  live : Nat

namespace Job

def outputFormat (config : ScaleConfig) (format : PixelFormat) :
    Except Complaint PixelFormat :=
  let wanted := config.format.getD format
  if format.isHardware then .error (.hardwareInput format)
  else if !FormatLists.outputFormats.contains wanted || wanted.isHardware then
    .error (.noHostOutput wanted)
  else
    .ok wanted

def start (config : ScaleConfig) (format : PixelFormat) (size : Resolution) :
    Except Complaint Job := do
  let wanted ← outputFormat config format
  let filter ← (ScaleFilter.init config none).mapError .error
  let link : InputLink := { format, width := size.width, height := size.height }
  let (result, filter, world) := filter.configOutput softwareRuntime link wanted .empty
  let output ← result.mapError .error
  return ⟨format, size, filter, output, world⟩

def plan (config : ScaleConfig) (request : ScaleRequest) : Except Complaint Job := do
  let config ← (config.setAll request.settings).mapError .error
  let size ← (Resolution.parse request.size).mapError .error
  let format ← (PixelFormat.parse request.pixelFormat).mapError .error
  start config format size

def video (job : Job) (data : Bytes) (limit : Option Nat) : RawVideo :=
  { format := job.format, size := job.size, data, wanted := limit }

def writeFrame (written : Bytes) (f : Frame) (w : World) :
    Attempt Error Unit × Bytes × World :=
  match f.packed? with
  | some bytes => (.ok (), written ++ bytes, w.dropFrame f)
  | none => (.error (.broken .outOfRange), written, w.dropFrame f)

def run (job : Job) (data : Bytes) (limit : Option Nat) : JobResult :=
  let (result, filter, output, w) :=
    match (job.video data limit).readAll [] with
    | .ok frames => job.filter.run writeFrame frames 0 #[] job.world
    -- All frames take the same bytes, so it is the first one that there is no room for.
    | .error failure => (.error failure, job.filter, #[], job.world)
  let (_, w) := filter.uninit w
  ⟨output, result, w.media.created, w.media.live⟩

def header (job : Job) : String :=
  "Scaling " ++ job.format.name ++ " " ++ job.size.text ++ " -> " ++ job.output.format.name ++ " "
    ++ job.output.size.text

end Job

def JobResult.lines (r : JobResult) (frames : Nat) : List String :=
  ["", "Results:",
    "  Frames: " ++ toString frames,
    "  Surfaces created: " ++ toString r.created,
    "  Surfaces live: " ++ toString r.live]

end VideoScaler.CommandLine
