import VideoScaler.Component.Basic
import VideoScaler.Conversion.Workspace

/-! The converter that scales and converts surfaces in software.

It works on one surface at a time: data is converted when it is taken in, and no more is
taken in until the result has been handed out.
-/

set_option autoImplicit false

namespace VideoScaler

namespace Property

def outputFormat : String := "OutputFormat"
def outputSize : String := "OutputSize"
def scaleType : String := "ScaleType"
def colorProfile : String := "ColorProfile"
def outputColorRange : String := "OutputColorRange"
def outputPrimaries : String := "OutputColorPrimaries"
def outputTransfer : String := "OutputTransferCharacteristic"

end Property

structure Converter where
  memory : MemoryType
  properties : List (String × Variant)
  /-- The layout and size of surfaces to take in. -/
  input : Option (SurfaceFormat × Int32 × Int32)
  /-- The result that has not been handed out. -/
  pending : Option Surface
  terminated : Bool

namespace Converter

def new (memory : MemoryType) : Converter :=
  ⟨memory, [], none, none, false⟩

def property? (c : Converter) (name : String) : Option Variant :=
  c.properties.lookup name

def integerProperty? (c : Converter) (name : String) : Option Int64 :=
  (c.property? name).bind Variant.integer?

def outputFormat (c : Converter) (input : SurfaceFormat) : SurfaceFormat :=
  match c.integerProperty? Property.outputFormat with
  | some code =>
    let format := SurfaceFormat.ofCode code.toInt
    if format = .unknown then input else format
  | none => input

def outputSize (c : Converter) (width height : Int32) : Int32 × Int32 :=
  ((c.property? Property.outputSize).bind Variant.size?).getD (width, height)

/-- How to convert, by the properties. The range follows from the color profile unless it
is set. -/
def parameters (c : Converter) : Conversion.Parameters :=
  let profile := c.integerProperty? Property.colorProfile
  { interpolation :=
      if c.integerProperty? Property.scaleType = some 1 then .bicubic else .bilinear
    matrix :=
      if profile = some 0 ∨ profile = some 3 then .bt601
      else if profile = some 2 ∨ profile = some 5 then .bt2020
      else .bt709
    fullRange :=
      match c.integerProperty? Property.outputColorRange with
      | some 2 => true
      | some 1 => false
      | _ => profile = some 3 ∨ profile = some 4 ∨ profile = some 5 }

/-- Is this a value that the property may have? An output size needs two positive
lengths. -/
def accepts (name : String) (value : Variant) : Bool :=
  if name = Property.outputSize then
    match value.size? with
    | some (width, height) => 0 < width && 0 < height
    | none => false
  else
    true

def setProperty (c : Converter) (name : String) (value : Variant) :
    Except Status Unit × Converter :=
  if accepts name value then
    (.ok (), { c with
      properties := (name, value) :: c.properties.filter fun entry => entry.1 ≠ name })
  else
    (.error .invalidArg, c)

def init (c : Converter) (format : SurfaceFormat) (width height : Int32) :
    Except Status Unit × Converter :=
  if c.input.isSome then (.error .alreadyInitialized, c)
  else if format = .unknown then (.error .formatNotSupported, c)
  else if width ≤ 0 ∨ height ≤ 0 then (.error .invalidResolution, c)
  else (.ok (), { c with input := some (format, width, height), terminated := false })

/-- Convert a surface into a new one with the same time stamp. The new surface is given up
again when it cannot be filled. -/
def convert (c : Converter) (format : SurfaceFormat) (width height : Int32) (s : Surface)
    (m : Media) : Attempt Status Surface × Media :=
  let target := c.outputFormat format
  let size := c.outputSize width height
  let width := size.1.toUInt32
  let height := size.2.toUInt32
  match m.allocSurface c.memory c.memory target width height with
  | .error failure => (.error failure, m)
  | .ok (output, m) =>
    match Conversion.convertWithin c.parameters (m.planes s) s.format (m.crop s) target
        width.toNat height.toNat with
    | .error failure => (.error (failure.map fun _ => Status.fail), m.release output)
    | .ok planes => (.ok output, (m.setPlanes output planes).setPts output (m.pts s))

def accept (c : Converter) (d : Data) (m : Media) : Attempt Status Surface × Media :=
  match c.input with
  | none => (.error (.refused .notInitialized), m)
  | some (format, width, height) =>
    if c.pending.isSome then (.error (.refused .inputFull), m)
    else
      match d with
      | .buffer _ => (.error (.refused .noInterface), m)
      | .surface s =>
        if s.format ≠ format then (.error (.refused .invalidFormat), m)
        else c.convert format width height s m

def submit (c : Converter) (d : Data) (m : Media) :
    Attempt Status Unit × Converter × Media :=
  match c.accept d m with
  | (.ok output, m) => (.ok (), { c with pending := some output }, d.discard m)
  | (.error failure, m) => (.error failure, c, d.discard m)

def query (c : Converter) (m : Media) : Except Status Data × Converter × Media :=
  match c.pending with
  | some s => (.ok (.surface s), { c with pending := none }, m)
  | none => (.error (if c.terminated then .endOfStream else .repeatLater), c, m)

def discard (c : Converter) (m : Media) : Media :=
  match c.pending with
  | some s => m.release s
  | none => m

def terminate (c : Converter) (m : Media) : Except Status Unit × Converter × Media :=
  (.ok (), { c with pending := none, input := none, terminated := true }, c.discard m)

theorem isSome_pending_of_submit (c : Converter) (d : Data) (m : Media)
    (h : (c.submit d m).1 = .ok ()) : (c.submit d m).2.1.pending.isSome = true := by
  revert h
  simp only [submit]
  split <;> simp

theorem isNotReady_query_of_isSome {c : Converter} (h : c.pending.isSome = true) (m : Media) :
    isNotReady (c.query m).1 = false := by
  obtain ⟨s, hs⟩ := Option.isSome_iff_exists.1 h
  simp [query, hs, isNotReady]

instance : Component Converter where
  setProperty := setProperty
  property? := property?
  init := init
  submit := submit
  query := query
  terminate := terminate
  discard := discard
  Busy c := c.pending.isSome = true
  waits _ := 0
  busy_of_submit := isSome_pending_of_submit
  waits_of_query c m busy h := by
    rw [isNotReady_query_of_isSome busy] at h
    exact absurd h (by decide)

end Converter

def derivedMemory : NativeApi → Except Status MemoryType
  | .d3d11 => .ok .dx11
  | .dx9 => .ok .dx9
  | .vulkan => .error .notSupported

def softwareRuntime : Runtime Converter where
  name := "software"
  createContext := .ok .host
  deriveContext := derivedMemory
  createComponent memory id :=
    if id = converterName then .ok (.new memory) else .error .notFound

end VideoScaler
