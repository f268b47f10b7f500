import VideoScaler.CommandLine.Disk
import VideoScaler.CommandLine.Job
import VideoScaler.CommandLine.Report
import VideoScaler.Config.File

/-! The command line: from arguments to what is printed and written. -/

set_option autoImplicit false

namespace VideoScaler.CommandLine

structure Outcome where
  code : UInt8
  lines : List String
  complaint : Option String := none
  deriving DecidableEq, Repr

namespace Outcome

def success (lines : List String) : Outcome :=
  ⟨0, lines, none⟩

def failure (lines : List String) (complaint : Complaint) : Outcome :=
  ⟨1, lines, some ("Error: " ++ complaint.message)⟩

def misuse : Outcome :=
  ⟨2, [], some ("Usage: " ++ programName ++ " <COMMAND>")⟩

def broken (lines : List String) : Outcome :=
  ⟨101, lines, none⟩

end Outcome

variable {m : Type → Type} [Monad m]

def baseConfig (disk : Disk m) : Option String → m (Except Complaint ScaleConfig)
  | none => return .ok {}
  | some path => do
    let text := (← disk.load path).bind fun bytes => String.fromUTF8? ⟨bytes⟩
    match text.map ScaleConfig.ofToml with
    | some (.ok config) => return .ok config
    | _ => return .error (.cannotLoad path)

/-- Scale a file into another one. The output is made empty before anything is read. -/
def transfer (disk : Disk m) (job : Job) (request : ScaleRequest) : m Outcome := do
  if !(← disk.canOpen request.input) then
    return .failure [job.header] (.cannotOpen request.input)
  if !(← disk.clear request.output) then
    return .failure [job.header] (.cannotCreate request.output)
  let result := job.run (← disk.content request.input) request.frames
  -- What was scaled before a failure is written as well.
  disk.save request.output result.output
  match result.frames with
  | .ok frames => return .success (job.header :: result.lines frames)
  | .error (.refused e) => return .failure [job.header] (.error e)
  | .error (.broken _) => return .broken [job.header]

def scale (disk : Disk m) (request : ScaleRequest) : m Outcome := do
  match (← baseConfig disk request.config).bind fun config => Job.plan config request with
  | .ok job => transfer disk job request
  | .error complaint => return .failure [] complaint

def run (disk : Disk m) (args : List String) : m Outcome :=
  match Invocation.read? args with
  | none => return .misuse
  | some .version => return .success [programName ++ " " ++ versionNumber]
  | some (.help topic) => return .success topic.helpLines
  | some .info => return .success infoLines
  | some .formats => return .success formatLines
  | some (.scale request) => scale disk request

end VideoScaler.CommandLine
