import VideoScaler.Number.Shortest

/-! What can be wrong with a dimension expression. -/

set_option autoImplicit false

namespace VideoScaler.Expression

inductive Defect where
  | unexpectedRest (rest : String)
  | unexpectedEnd
  | missingClose
  | unexpectedCharacter (c : Char)
  | invalidNumber (literal : String)
  | unknownFunction (name : String)
  | argumentCount (name : String) (wanted got : Nat)
  | unknownVariable (name : String)
  /-- The value is not a number, is infinite, or is past the signed 32-bit range. -/
  | evaluatesTo (value : Float)
  | note (reason : String)

/-- The text for a character that starts no operand: its first byte in UTF-8, read as a
Latin-1 character. -/
def leadByte (c : Char) : Char :=
  let n := c.toNat
  if n < 0x80 then c
  else if n < 0x800 then Char.ofNat (0xC0 + n / 0x40)
  else if n < 0x10000 then Char.ofNat (0xE0 + n / 0x1000)
  else Char.ofNat (0xF0 + n / 0x40000)

def Defect.message : Defect → String
  | unexpectedRest rest => "unexpected '" ++ rest ++ "'"
  | unexpectedEnd => "unexpected end of expression"
  | missingClose => "missing ')'"
  | unexpectedCharacter c => "unexpected '" ++ String.singleton (leadByte c) ++ "'"
  | invalidNumber literal => "invalid number '" ++ literal ++ "'"
  | unknownFunction name => "unknown function '" ++ name ++ "'"
  | argumentCount name wanted got =>
    name ++ "() takes " ++ toString wanted ++ " argument(s), got " ++ toString got
  | unknownVariable name => "unknown variable '" ++ name ++ "'"
  | evaluatesTo value => "evaluates to " ++ Number.text value
  | note reason => reason

end VideoScaler.Expression
