import VideoScaler.Component.Converter

/-! Components that play a script.

A scripted component answers as it is told, whatever it is asked. It takes in surfaces, and
nothing else, and may hand the last one out again unchanged.
-/

set_option autoImplicit false

namespace VideoScaler

inductive Reply where
  | status (s : Status)
  /-- Data that is no surface. -/
  | buffer
  /-- The surface that was taken in last. -/
  | echo
  deriving DecidableEq, Repr

structure Script where
  /-- Answers to setting a property, by its name. -/
  setProperty : List (String × Status) := []
  init : Status := .ok
  terminate : Status := .ok
  /-- Answers to taking data in; success when used up. -/
  submits : List Status := []
  /-- Answers to the question for a result; the last surface when used up. -/
  queries : List Reply := []
  held : Option Surface := none

namespace Script

def outcome (status : Status) : Except Status Unit :=
  if status.isOk then .ok () else .error status

def discard (c : Script) (m : Media) : Media :=
  match c.held with
  | some s => m.release s
  | none => m

/-- Take data in by the next answer: on success a surface replaces the one that was held.
Where the answer is success, data that is no surface is refused. What is refused leaves
nothing behind. -/
def take (c : Script) (d : Data) (m : Media) : Attempt Status Unit × Script × Media :=
  let status := c.submits.headD .ok
  let c := { c with submits := c.submits.tail }
  if status.isOk then
    match d with
    | .surface s => (.ok (), { c with held := some s }, c.discard m)
    | .buffer _ => (.error (.refused .noInterface), c, d.discard m)
  else
    (.error (.refused status), c, d.discard m)

def giveBack (c : Script) (m : Media) : Except Status Data × Script × Media :=
  match c.held with
  | some s => (.ok (.surface s), { c with held := none }, m)
  | none => (.error .endOfStream, c, m)

def query (c : Script) (m : Media) : Except Status Data × Script × Media :=
  match c.queries with
  | [] => c.giveBack m
  | .echo :: queries => { c with queries }.giveBack m
  | .buffer :: queries => (.ok (.buffer #[]), { c with queries }, m)
  | .status s :: queries => (.error s, { c with queries }, m)

theorem isNotReady_giveBack (c : Script) (m : Media) : isNotReady (c.giveBack m).1 = false := by
  simp only [giveBack]
  split
  · rfl
  · rfl

theorem length_queries_of_isNotReady (c : Script) (m : Media)
    (h : isNotReady (c.query m).1 = true) :
    (c.query m).2.1.queries.length < c.queries.length := by
  revert h
  simp only [query]
  split
  · simp [isNotReady_giveBack]
  · simp [isNotReady_giveBack]
  · simp [isNotReady]
  · rename_i hq
    simp [hq]

instance : Component Script where
  setProperty c name _ := (outcome ((c.setProperty.lookup name).getD .ok), c)
  property? _ _ := none
  init c _ _ _ := (outcome c.init, c)
  submit := take
  query := query
  terminate c m := (outcome c.terminate, c, m)
  discard := discard
  Busy _ := True
  waits c := c.queries.length
  busy_of_submit _ _ _ _ := trivial
  waits_of_query c m _ h := ⟨trivial, length_queries_of_isNotReady c m h⟩

/-- A runtime whose components play a script. Its contexts are those of the software
runtime, unless it is told to refuse them. -/
def runtime (createContext deriveContext createComponent : Status) (script : Script) :
    Runtime Script where
  name := "scripted"
  createContext := if createContext.isOk then .ok .host else .error createContext
  deriveContext api := if deriveContext.isOk then derivedMemory api else .error deriveContext
  createComponent _ _ := if createComponent.isOk then .ok script else .error createComponent

end Script

end VideoScaler
