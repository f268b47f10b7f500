import VideoScaler.CommandLine.Invocation

/-! The help texts of the program. -/

set_option autoImplicit false

namespace VideoScaler.CommandLine

def programName : String := "ghostscale"

def versionNumber : String := "0.1.0"

namespace Topic

def about : Topic → String
  | program => "AMF GPU Video Scaler - Resize and color-convert raw video"
  | info => "Show backend information and negotiated formats"
  | formats => "List pixel formats and their accelerator surface formats"
  | scale => "Scale a raw video file through the software backend"
  | help => "Print this message or the help of the given subcommand(s)"

end Topic

namespace Parameter

def placeholder (p : Parameter) : String :=
  "<" ++ (p.word.map fun c => if c = '-' then '_' else c.toUpper) ++ ">"

def helpLines (p : Parameter) : List String :=
  let start := match p.letter? with
    | some c => "  -" ++ String.singleton c ++ ", "
    | none => "      "
  [start ++ "--" ++ p.word ++ " " ++ p.placeholder, "          " ++ p.summary]

end Parameter

/-- The parameters that have to be given, as the usage line shows them. -/
def requiredUsage : String :=
  String.intercalate " " ((Parameter.all.filter Parameter.isRequired).map fun p =>
    "--" ++ p.word ++ " " ++ p.placeholder)

def Topic.helpLines (topic : Topic) : List String :=
  match topic with
  | program =>
    [topic.about, "", "Usage: " ++ programName ++ " <COMMAND>", "", "Commands:",
      "  info     " ++ Topic.info.about,
      "  formats  " ++ Topic.formats.about,
      "  scale    " ++ Topic.scale.about,
      "  help     " ++ Topic.help.about,
      "", "Options:", "  -h, --help     Print help", "  -V, --version  Print version"]
  | info =>
    [topic.about, "", "Usage: " ++ programName ++ " info", "", "Options:",
      "  -h, --help  Print help"]
  | formats =>
    [topic.about, "", "Usage: " ++ programName ++ " formats", "", "Options:",
      "  -h, --help  Print help"]
  | scale =>
    [topic.about, "", "Usage: " ++ programName ++ " scale [OPTIONS] " ++ requiredUsage, "",
      "Options:"]
    ++ (Parameter.all.map Parameter.helpLines).flatten
    ++ ["  -h, --help", "          Print help"]
  | help =>
    [topic.about, "", "Usage: " ++ programName ++ " help [COMMAND]...", "", "Arguments:",
      "  [COMMAND]...  Print help for the subcommand(s)"]

end VideoScaler.CommandLine
