import VideoScaler.CommandLine.Parameter
import VideoScaler.Config.Setting

/-! What a command line asks for.

A parameter is given by its word or its letter. Its value follows as an argument of its own
that does not start with a dash, or in the same argument: after an equals sign, or right
after the letter. Every parameter is given at most once. Arguments are read from left to
right, so a call for help counts only if nothing before it is wrong.
-/

set_option autoImplicit false

namespace VideoScaler.CommandLine

inductive Argument where
  /-- Two dashes: no parameters follow. -/
  | separator
  | word (name : List Char) (value : Option (List Char))
  /-- A letter and what follows it in the same argument. -/
  | letter (c : Char) (rest : List Char)
  | plain
  deriving DecidableEq, Repr

def Argument.read (s : String) : Argument :=
  match s.toList with
  | ['-', '-'] => separator
  | '-' :: '-' :: text =>
    if text.contains '=' then
      word (text.takeWhile (· ≠ '=')) (some (text.dropWhile (· ≠ '=')).tail)
    else
      word text none
  | '-' :: c :: rest => letter c rest
  | _ => plain

inductive Interruption where
  | help
  | misuse
  deriving DecidableEq, Repr

abbrev Values := List (Parameter × String)

def Values.add (values : Values) (p : Parameter) (s : String) : Except Interruption Values :=
  if p.kind.accepts s && !values.any (·.1 = p) then .ok (values ++ [(p, s)]) else .error .misuse

def attached? : List Char → Option (List Char)
  | [] => none
  | '=' :: value => some value
  | value => some value

/-- What an argument says about a command that has parameters: nothing more is to come, or
the parameter that is given with what there is of its value. -/
def Argument.parameter? (known : List Parameter) :
    Argument → Except Interruption (Option (Parameter × Option (List Char)))
  | separator => .ok none
  | plain => .error .misuse
  | word name value =>
    if name = "help".toList then .error (if value.isSome then .misuse else .help)
    else
      match known.find? fun p => p.word.toList == name with
      | some p => .ok (some (p, value))
      | none => .error .misuse
  | letter c rest =>
    if c = 'h' then .error .help
    else
      match known.find? fun p => p.letter? == some c with
      | some p => .ok (some (p, attached? rest))
      | none => .error .misuse

def readValues (known : List Parameter) : List String → Values → Except Interruption Values
  | [], values => .ok values
  | s :: rest, values =>
    match (Argument.read s).parameter? known with
    | .error interruption => .error interruption
    -- No command takes anything but parameters, so nothing may follow two dashes.
    | .ok none => if rest.isEmpty then .ok values else .error .misuse
    | .ok (some (p, some value)) =>
      match values.add p (String.ofList value) with
      | .ok values => readValues known rest values
      | .error interruption => .error interruption
    | .ok (some (p, none)) =>
      match rest with
      | [] => .error .misuse
      | value :: rest =>
        if Argument.read value = .plain then
          match values.add p value with
          | .ok values => readValues known rest values
          | .error interruption => .error interruption
        else
          .error .misuse

structure ScaleRequest where
  input : String
  output : String
  size : String
  pixelFormat : String
  config : Option String
  /-- What overrides the configuration. -/
  settings : List Setting
  frames : Option Nat
  deriving DecidableEq, Repr

def Parameter.setting? (p : Parameter) (s : String) : Option Setting :=
  match p with
  | width => some (.width s)
  | height => some (.height s)
  | format => some (.format s)
  | algorithm => some (.algorithm s)
  | profile => some (.profile s)
  | range => some (.range s)
  | primaries => some (.primaries s)
  | transfer => some (.transfer s)
  | aspect => some (.aspect s)
  | divisor => (readNumber32? s).map fun n => .divisor (UInt32.ofNat n)
  | input | output | size | pixelFormat | config | frames => none

/-- Settings take effect in the order of the parameters, in whatever order they are given. -/
def ScaleRequest.ofValues? (values : Values) : Option ScaleRequest := do
  return {
    input := ← values.lookup .input
    output := ← values.lookup .output
    size := ← values.lookup .size
    pixelFormat := (values.lookup .pixelFormat).getD "nv12"
    config := values.lookup .config
    settings := Parameter.all.filterMap fun p => (values.lookup p).bind p.setting?
    frames := (values.lookup .frames).bind readNumber64? }

inductive Topic where
  | program | info | formats | scale | help
  deriving DecidableEq, Repr

inductive Invocation where
  | version
  | help (topic : Topic)
  | info
  | formats
  | scale (request : ScaleRequest)
  deriving DecidableEq, Repr

namespace Invocation

def ofReading (topic : Topic) (finish : Values → Option Invocation) :
    Except Interruption Values → Option Invocation
  | .ok values => finish values
  | .error .help => some (help topic)
  | .error .misuse => none

def readHelp : List String → Option Invocation
  | [] => some (help .program)
  | ["info"] => some (help .info)
  | ["formats"] => some (help .formats)
  | ["scale"] => some (help .scale)
  | ["help"] => some (help .help)
  | _ => none

def readFlag (s : String) : Option Invocation :=
  match Argument.read s with
  | .word name none =>
    if name = "help".toList then some (help .program)
    else if name = "version".toList then some version
    else none
  | .letter c _ =>
    if c = 'h' then some (help .program) else if c = 'V' then some version else none
  | _ => none

def read? : List String → Option Invocation
  | [] => none
  | "info" :: rest => ofReading .info (fun _ => some info) (readValues [] rest [])
  | "formats" :: rest => ofReading .formats (fun _ => some formats) (readValues [] rest [])
  | "scale" :: rest =>
    ofReading .scale (fun values => (ScaleRequest.ofValues? values).map scale)
      (readValues Parameter.all rest [])
  | "help" :: rest => readHelp rest
  | s :: _ => readFlag s

end Invocation

end VideoScaler.CommandLine
