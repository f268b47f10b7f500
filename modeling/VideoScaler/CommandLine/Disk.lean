import VideoScaler.Number.LittleEndian

/-! Files, as far as the program needs them, and a working directory that has some. -/

set_option autoImplicit false

namespace VideoScaler.CommandLine

structure Disk (m : Type → Type) where
  /-- The bytes of a file; none if it cannot be read. -/
  load : String → m (Option Bytes)
  /-- Can this be opened to read from it? -/
  canOpen : String → m Bool
  /-- Make a file empty, or make an empty file; tells whether that is possible. -/
  clear : String → m Bool
  /-- The bytes that can be read of something that can be opened. -/
  content : String → m Bytes
  save : String → Bytes → m Unit

inductive Place where
  /-- The name of a file that is there or could be made. -/
  | file (name : String)
  | directory
  /-- A file that is always empty, and swallows what is written. -/
  | null
  | nowhere
  deriving DecidableEq, Repr

def pathParts (path : String) : List String :=
  (path.splitOn "/").filter fun part => part ≠ "" && part ≠ "."

/-- Where a path leads from a directory without further directories in it. -/
def Place.ofPath (path : String) : Place :=
  if path = "" then nowhere
  else if path = "/dev/null" then null
  else if path.startsWith "/" then (if pathParts path = [] then directory else nowhere)
  else
    match pathParts path with
    | [] => directory
    | [".."] => directory
    | [name] => if path.endsWith "/" || path.endsWith "/." then nowhere else file name
    | _ => nowhere

abbrev Files := List (String × Bytes)

namespace Files

def load (files : Files) (path : String) : Option Bytes :=
  match Place.ofPath path with
  | .file name => files.lookup name
  | .null => some #[]
  | .directory | .nowhere => none

def canOpen (files : Files) (path : String) : Bool :=
  match Place.ofPath path with
  | .file name => (files.lookup name).isSome
  | .null | .directory => true
  | .nowhere => false

def put (files : Files) (name : String) (bytes : Bytes) : Files :=
  (name, bytes) :: files.filter fun entry => entry.1 ≠ name

def save (files : Files) (path : String) (bytes : Bytes) : Files :=
  match Place.ofPath path with
  | .file name => files.put name bytes
  | _ => files

def canClear (path : String) : Bool :=
  match Place.ofPath path with
  | .file _ | .null => true
  | .directory | .nowhere => false

def disk : Disk (StateM Files) where
  load path := return (← get).load path
  canOpen path := return (← get).canOpen path
  clear path := do
    modify fun files => files.save path #[]
    return canClear path
  content path := return ((← get).load path).getD #[]
  save path bytes := modify fun files => files.save path bytes

end Files

end VideoScaler.CommandLine
