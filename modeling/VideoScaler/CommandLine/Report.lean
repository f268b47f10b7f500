import VideoScaler.CommandLine.Help
import VideoScaler.Filter.Negotiation
import VideoScaler.Format.Surface

/-! What the program says about itself and about formats. -/

set_option autoImplicit false

namespace VideoScaler.CommandLine

def padRight (width : Nat) (s : String) : String :=
  s ++ String.ofList (List.replicate (width - s.length) ' ')

def joinFormats (formats : List PixelFormat) : String :=
  String.intercalate ", " (formats.map PixelFormat.name)

/-- What a bound device changes about the formats on offer. -/
def deviceLine (kind : DeviceKind) : String :=
  match FormatLists.negotiate (some (.native kind 0)) with
  | .ok lists => kind.name ++ " device: out " ++ joinFormats lists.output
  | .error e => kind.name ++ " device: " ++ e.message

def infoLines : List String :=
  let lists := FormatLists.ofOutput FormatLists.outputFormats
  ["GhostScale System Information",
    "=============================",
    "",
    "Version: " ++ versionNumber,
    "Backend: software",
    "swscale: No",
    "",
    "=== Negotiated formats ===",
    "No device:",
    "  in:  " ++ joinFormats lists.input,
    "  out: " ++ joinFormats lists.output]
  ++ [DeviceKind.d3d11va, .dxva2, .amf, .vaapi].map deviceLine

def formatLine (f : PixelFormat) : String :=
  "  " ++ padRight 12 f.name ++ " " ++ padRight 9 (if f.isHardware then "hardware" else "host")
    ++ " surface " ++ (SurfaceFormat.ofPixelFormat f).name

def formatLines : List String :=
  ["Pixel Formats", "=============", ""] ++ PixelFormat.all.map formatLine

end VideoScaler.CommandLine
