import VideoScaler.Toml.Scalar
import VideoScaler.Toml.Table

/-! Reading configuration files.

A file is a sequence of lines, each empty, a comment, a table header or a key with its
value. Every step of a loop takes at least one character, so the length of the text bounds
the number of steps.
-/

set_option autoImplicit false

namespace VideoScaler.Toml

def skipSpaces (s : List Char) : List Char :=
  s.dropWhile isSpace

/-- Skip blanks, line breaks and comments; `comment` while inside of one. -/
def skipLines (comment : Bool) : List Char → List Char
  | [] => []
  | '\n' :: rest => skipLines false rest
  | '\r' :: '\n' :: rest => skipLines false rest
  | c :: rest =>
    if comment then if isPlain c then skipLines true rest else c :: rest
    else if isSpace c then skipLines false rest
    else if c = '#' then skipLines true rest
    else c :: rest

def endLine? (s : List Char) : Option (List Char) :=
  let s := match skipSpaces s with
    | '#' :: rest => rest.dropWhile isPlain
    | s => s
  match s with
  | [] => some []
  | s => afterBreak? s

def isKeyChar (c : Char) : Bool :=
  c.isAlphanum || c = '_' || c = '-'

def readKeyChars? : List Char → Option (List Char × List Char)
  | '"' :: rest => readBasic rest
  | '\'' :: rest => readLiteral rest
  | s =>
    match s.takeWhile isKeyChar with
    | [] => none
    | part => some (part, s.dropWhile isKeyChar)

def readKeyPart? (s : List Char) : Option (String × List Char) :=
  (readKeyChars? (skipSpaces s)).map fun r => (String.ofList r.1, skipSpaces r.2)

/-- A key of at most `parts` parts with points between them: the parts before the last
one, and the last one. -/
def readKey? (parts : Nat) (s : List Char) : Option ((List String × String) × List Char) :=
  match parts with
  | 0 => none
  | parts + 1 =>
    match readKeyPart? s with
    | some (part, '.' :: rest) =>
      (readKey? parts rest).map fun r => ((part :: r.1.1, r.1.2), r.2)
    | some (part, rest) => some (([], part), rest)
    | none => none

/-- The greatest number of parts of a key, and of brackets around a value. -/
def depthLimit : Nat := 79

def readPair? (value : List Char → Option (Document × List Char)) (s : List Char) :
    Option ((List String × String) × Document × List Char) := do
  match ← readKey? depthLimit s with
  | (key, '=' :: rest) =>
    let (d, rest) ← value (skipSpaces rest)
    return (key, d, skipSpaces rest)
  | _ => none

def readItems? (value : List Char → Option (Document × List Char)) :
    Nat → List Char → Option (List Document × List Char)
  | 0, _ => none
  | steps + 1, s =>
    match skipLines false s with
    | ']' :: rest => some ([], rest)
    | s => do
      let (d, rest) ← value s
      match skipLines false rest with
      | ',' :: rest => (readItems? value steps rest).map fun r => (d :: r.1, r.2)
      | ']' :: rest => return ([d], rest)
      | _ => none

def readPairs? (value : List Char → Option (Document × List Char)) :
    Nat → Entries → List Char → Option (Entries × List Char)
  | 0, _, _ => none
  | steps + 1, entries, s => do
    let ((path, key), d, rest) ← readPair? value s
    let entries ← entries.set path key d
    match rest with
    | ',' :: rest => readPairs? value steps entries rest
    | '\x7d' :: rest => return (entries, rest)
    | _ => none

/-- A value with at most `depth` brackets around its innermost part. -/
def readValue? (depth : Nat) (s : List Char) : Option (Document × List Char) :=
  match s with
  | '[' :: rest =>
    match depth with
    | 0 => none
    | depth + 1 =>
      (readItems? (readValue? depth) rest.length rest).map fun r => (.list r.1, r.2)
  | '\x7b' :: rest =>
    match depth with
    | 0 => none
    | depth + 1 =>
      match skipSpaces rest with
      | '\x7d' :: rest => some (.table [], rest)
      | _ =>
        (readPairs? (readValue? depth) rest.length [] rest).map fun r =>
          (.table (entriesToFields r.1), r.2)
  | s =>
    (readText? s).map (fun r => (.text r.1, r.2)) <|> readScalar? s

/-- The header of a table or, with doubled brackets, of one more table of a list: the
tables after it, its path, and the text after its line. -/
def readHeader? (entries : Entries) (s : List Char) :
    Option (Entries × List String × List Char) :=
  match s with
  | '[' :: '[' :: rest => do
    match ← readKey? depthLimit rest with
    | ((path, key), ']' :: ']' :: rest) =>
      return (← entries.startItem path key, path ++ [key], ← endLine? rest)
    | _ => none
  | '[' :: rest => do
    match ← readKey? depthLimit rest with
    | ((path, key), ']' :: rest) =>
      return (← entries.startTable path key, path ++ [key], ← endLine? rest)
    | _ => none
  | _ => none

def readLines? : Nat → List String → Entries → List Char → Option Entries
  | 0, _, _, _ => none
  | steps + 1, header, entries, s =>
    match skipSpaces s with
    | [] => some entries
    | '[' :: rest => do
      let (entries, header, rest) ← readHeader? entries ('[' :: rest)
      readLines? steps header entries rest
    | c :: rest =>
      if c = '#' || c = '\n' || c = '\r' then do
        readLines? steps header entries (← endLine? (c :: rest))
      else do
        let ((path, key), d, rest) ← readPair? (readValue? depthLimit) (c :: rest)
        let entries ← entries.within header (Entries.set path key d)
        readLines? steps header entries (← endLine? rest)

def dropMark : List Char → List Char
  | '\ufeff' :: rest => rest
  | s => s

def read? (source : String) : Option Document :=
  let s := dropMark source.toList
  (readLines? (s.length + 1) [] [] s).map fun entries => .table (entriesToFields entries)

end VideoScaler.Toml
