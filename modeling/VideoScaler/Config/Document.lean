import VideoScaler.Config.Basic
import VideoScaler.Document
import VideoScaler.Resolution

/-! The plain-data forms of configurations, sizes, ratios and option words.

A structure is a table with one field per component, or the list of its components in
order. In a configuration every field may be missing, and then has its default; a list may
end early. Unknown fields are ignored, a field given twice is refused.
-/

set_option autoImplicit false

namespace VideoScaler

open Document (UnitForm)

namespace ScaleConfig

/-- How one field of a configuration is stored: the keys it may have, and what a value
under one of them does to a configuration. -/
structure Field where
  keys : List String
  store? : UnitForm → Document → ScaleConfig → Option ScaleConfig

/-- An output format is stored as its name, where `same` keeps the format of the input. -/
def readFormat? (d : Document) : Option (Option PixelFormat) :=
  d.readText?.bind fun s => (PixelFormat.parseOutput s).toOption

def fields : List Field :=
  [⟨["width", "w"], fun _ d c => d.readText?.map fun s => { c with width := s }⟩,
    ⟨["height", "h"], fun _ d c => d.readText?.map fun s => { c with height := s }⟩,
    ⟨["format"], fun _ d c => (readFormat? d).map fun f => { c with format := f }⟩,
    ⟨["scale-type"], fun unit d c =>
      (d.readNamed? unit ScaleAlgorithm.all ScaleAlgorithm.name).map fun a =>
        { c with algorithm := a }⟩,
    ⟨["color-profile"], fun unit d c =>
      (d.readOptional? fun d => d.readNamed? unit ColorProfile.all ColorProfile.name).map
        fun p => { c with profile := p }⟩,
    ⟨["color-range"], fun unit d c =>
      (d.readOptional? fun d => d.readNamed? unit RangeOverride.all RangeOverride.name).map
        fun r => { c with range := r }⟩,
    ⟨["primaries"], fun unit d c =>
      (d.readOptional? fun d => d.readNamed? unit Primaries.all Primaries.name).map
        fun p => { c with primaries := p }⟩,
    ⟨["trc"], fun unit d c =>
      (d.readOptional? fun d => d.readNamed? unit Transfer.all Transfer.name).map
        fun t => { c with transfer := t }⟩,
    ⟨["force-original-aspect-ratio"], fun unit d c =>
      (d.readNamed? unit AspectPolicy.all AspectPolicy.name).map fun p =>
        { c with aspect := p }⟩,
    ⟨["force-divisible-by"], fun _ d c => d.readUInt32?.map fun n => { c with divisor := n }⟩]

def Field.load? (field : Field) (unit : UnitForm) (entries : List (String × Document))
    (c : ScaleConfig) : Option ScaleConfig :=
  match Document.under field.keys entries with
  | [] => some c
  | [d] => field.store? unit d c
  | _ => none

def ofTable? (unit : UnitForm) (entries : List (String × Document)) : Option ScaleConfig :=
  fields.foldlM (fun c field => field.load? unit entries c) {}

/-- Store the components of a list one after the other; there must not be more of them
than fields. -/
def ofItems? (unit : UnitForm) : List Field → List Document → ScaleConfig → Option ScaleConfig
  | _, [], c => some c
  | [], _ :: _, _ => none
  | field :: fields, d :: rest, c => (field.store? unit d c).bind (ofItems? unit fields rest)

def ofDocument? (unit : UnitForm) : Document → Option ScaleConfig
  | .table entries => ofTable? unit entries
  | .list items => ofItems? unit fields items {}
  | _ => none

def optional {α : Type} (name : α → String) : Option α → Document
  | some a => .text (name a)
  | none => .null

def formatName : Option PixelFormat → String
  | some f => f.name
  | none => "same"

/-- All fields, in order; unset ones are null. -/
def toDocument (c : ScaleConfig) : Document :=
  .table
    [("width", .text c.width),
      ("height", .text c.height),
      ("format", .text (formatName c.format)),
      ("scale-type", .text c.algorithm.name),
      ("color-profile", optional ColorProfile.name c.profile),
      ("color-range", optional RangeOverride.name c.range),
      ("primaries", optional Primaries.name c.primaries),
      ("trc", optional Transfer.name c.transfer),
      ("force-original-aspect-ratio", .text c.aspect.name),
      ("force-divisible-by", .integer c.divisor.toNat)]

end ScaleConfig

def Document.readPair? (first second : String) : Document → Option (Document × Document)
  | .table entries =>
    match under [first] entries, under [second] entries with
    | [a], [b] => some (a, b)
    | _, _ => none
  | .list [a, b] => some (a, b)
  | _ => none

namespace Resolution

def ofDocument? (d : Document) : Option Resolution := do
  let (w, h) ← d.readPair? "width" "height"
  return ⟨← w.readUInt32?, ← h.readUInt32?⟩

def toDocument (r : Resolution) : Document :=
  .table [("width", .integer r.width.toNat), ("height", .integer r.height.toNat)]

end Resolution

namespace Ratio

def ofDocument? (d : Document) : Option Ratio := do
  let (num, den) ← d.readPair? "num" "den"
  return ⟨← num.readInt32?, ← den.readInt32?⟩

def toDocument (r : Ratio) : Document :=
  .table [("num", .integer r.num.toInt), ("den", .integer r.den.toInt)]

end Ratio

end VideoScaler
