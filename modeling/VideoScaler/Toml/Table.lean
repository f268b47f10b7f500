import VideoScaler.Document

/-! Tables under construction.

A file builds its tables statement by statement. Whether a table may still be extended
depends on where it came from: a header defines a table once, a dotted key only goes
through tables that other dotted keys made, and a list of tables grows at its end.
-/

set_option autoImplicit false

namespace VideoScaler.Toml

/-- What a key holds while a file is read. An `implicit` table was only passed through; a
`dotted` one was made by a dotted key. Of a list of tables the latest comes first. -/
inductive Node where
  | value (d : Document)
  | table (implicit dotted : Bool) (entries : List (String × Node))
  | tables (latest : List (String × Node)) (earlier : List (List (String × Node)))

abbrev Entries := List (String × Node)

namespace Entries

def replace (entries : Entries) (key : String) (node : Node) : Entries :=
  entries.map fun entry => if entry.1 = key then (key, node) else entry

def add (entries : Entries) (key : String) (node : Node) : Entries :=
  entries ++ [(key, node)]

/-- Change the table that a path leads to, making the missing tables on the way. The
change is told whether the table was made by a dotted key. -/
def descend (change : Bool → Entries → Option Entries) (byKey : Bool) :
    List String → Bool → Entries → Option Entries
  | [], dotted, entries => change dotted entries
  | key :: path, _, entries =>
    match entries.lookup key with
    | none =>
      (descend change byKey path byKey []).map fun inner =>
        add entries key (.table true byKey inner)
    | some (.value _) => none
    | some (.table implicit dotted inner) =>
      -- A table that a header has started is closed to dotted keys.
      if byKey && !implicit then none
      else
        (descend change byKey path dotted inner).map fun inner =>
          replace entries key (.table implicit dotted inner)
    -- A path through a list of tables leads to the latest of them.
    | some (.tables latest earlier) =>
      (descend change byKey path false latest).map fun latest =>
        replace entries key (.tables latest earlier)

/-- Set a value under a dotted key, given as the path to the table and the last part. A
path must end in a table made by a dotted key, and the key must be new. -/
def set (path : List String) (key : String) (d : Document) (entries : Entries) :
    Option Entries :=
  descend (fun dotted entries =>
    if dotted = path.isEmpty then none
    else
      match entries.lookup key with
      | none => some (add entries key (.value d))
      | some _ => none) true path false entries

/-- Start the table of a header: a new one, or one that was only passed through. -/
def startTable (path : List String) (key : String) (entries : Entries) : Option Entries :=
  descend (fun _ entries =>
    match entries.lookup key with
    | none => some (add entries key (.table false false []))
    | some (.table true false inner) => some (replace entries key (.table false false inner))
    | some _ => none) false path false entries

def startItem (path : List String) (key : String) (entries : Entries) : Option Entries :=
  descend (fun _ entries =>
    match entries.lookup key with
    | none => some (add entries key (.tables [] []))
    | some (.tables latest earlier) => some (replace entries key (.tables [] (latest :: earlier)))
    | some _ => none) false path false entries

def within (header : List String) (change : Entries → Option Entries) (entries : Entries) :
    Option Entries :=
  descend (fun _ entries => change entries) false header false entries

end Entries

mutual

def Node.toDocument : Node → Document
  | .value d => d
  | .table _ _ entries => .table (entriesToFields entries)
  | .tables latest earlier => .list (entriesToItems earlier [.table (entriesToFields latest)])

def entriesToFields : List (String × Node) → List (String × Document)
  | [] => []
  | (key, node) :: rest => (key, node.toDocument) :: entriesToFields rest

/-- The finished tables of a list, before those that come later in the file. -/
def entriesToItems : List (List (String × Node)) → List Document → List Document
  | [], later => later
  | entries :: earlier, later => entriesToItems earlier (.table (entriesToFields entries) :: later)

end

end VideoScaler.Toml
