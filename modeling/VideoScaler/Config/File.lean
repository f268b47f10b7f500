import VideoScaler.Config.Document
import VideoScaler.Toml.Reader
import VideoScaler.Toml.Writer

/-! Configurations as files. -/

set_option autoImplicit false

namespace VideoScaler.ScaleConfig

def ofToml (source : String) : Except Error ScaleConfig :=
  match (Toml.read? source).bind (ofDocument? .empty) with
  | none => .error .configFile
  | some c => c.validate.map fun _ => c

def fieldsOf : Document → List (String × Document)
  | .table fields => fields
  | _ => []

def toToml (c : ScaleConfig) : String :=
  Toml.write (fieldsOf c.toDocument)

end VideoScaler.ScaleConfig
