import VideoScaler.Document
import VideoScaler.Toml.Text

/-! Writing configuration files: one line per field, in order. Null fields are left out. -/

set_option autoImplicit false

namespace VideoScaler.Toml

/-- The form of a text or an integer; the other kinds of values have no place in the files
written here. -/
def writeValue? : Document → Option (List Char)
  | .text value => some (writeText value.toList)
  | .integer value => some (toString value).toList
  | _ => none

def writeField (field : String × Document) : List Char :=
  match writeValue? field.2 with
  | some value => field.1.toList ++ [' ', '=', ' '] ++ value ++ ['\n']
  | none => []

def write (fields : List (String × Document)) : String :=
  String.ofList (fields.flatMap writeField)

end VideoScaler.Toml
