/-! Trees of plain data, as read from configuration texts and messages. -/

set_option autoImplicit false

namespace VideoScaler

inductive Document where
  | null
  | bool (value : Bool)
  | integer (value : Int)
  | real (value : Float)
  | text (value : String)
  /-- A date, a time, or both. -/
  | moment (literal : String)
  | list (items : List Document)
  | table (fields : List (String × Document))
  deriving Inhabited

namespace Document

/-- Which documents stand for the single value of a one-element type: null where a format
has it, and otherwise a table or list without content. -/
inductive UnitForm where
  | null | empty
  deriving DecidableEq, Repr

def UnitForm.accepts : UnitForm → Document → Bool
  | .null, .null => true
  | .empty, .list [] => true
  | .empty, .table [] => true
  | _, _ => false

def under (keys : List String) (fields : List (String × Document)) : List Document :=
  (fields.filter fun field => keys.contains field.1).map Prod.snd

def readText? : Document → Option String
  | text value => some value
  | _ => none

def readInteger? (low high : Int) : Document → Option Int
  | integer value => if low ≤ value ∧ value ≤ high then some value else none
  | _ => none

def readUInt32? (d : Document) : Option UInt32 :=
  (d.readInteger? 0 4294967295).map fun n => UInt32.ofNat n.toNat

def readInt32? (d : Document) : Option Int32 :=
  (d.readInteger? (-2147483648) 2147483647).map Int32.ofInt

def readOptional? {α : Type} (read : Document → Option α) : Document → Option (Option α)
  | null => some none
  | d => (read d).map some

/-- The word that names one of several alternatives: the name itself, or a table with the
name as its only key and nothing below it. -/
def readWord? (unit : UnitForm) : Document → Option String
  | text name => some name
  | table [(name, content)] => if unit.accepts content then some name else none
  | _ => none

def readNamed? {α : Type} (unit : UnitForm) (all : List α) (name : α → String)
    (d : Document) : Option α :=
  (d.readWord? unit).bind fun word => all.find? fun a => name a == word

theorem readNamed?_text {α : Type} {unit : UnitForm} {all : List α} {name : α → String} {a : α}
    (h : all.find? (fun b => name b == name a) = some a) :
    readNamed? unit all name (text (name a)) = some a := by
  simpa [readNamed?, readWord?] using h

end Document

end VideoScaler
