import VideoScaler.Text.Blank

/-! The tokens of a dimension expression.

Tokens are taken greedily: a number is a run of digits and points with a complete exponent
if one follows, a word a run of letters, digits and underscores. ASCII blanks may stand
between tokens. Each token keeps the text that starts with it, for messages.
-/

set_option autoImplicit false

namespace VideoScaler.Expression

inductive Token where
  | number (literal : String)
  | word (name : String)
  | plus | minus | times | slash | opening | closing | comma
  | other (c : Char)
  deriving DecidableEq, Repr

structure Lexeme where
  token : Token
  source : List Char

namespace Token

def isNumberChar (c : Char) : Bool :=
  c.isDigit || c = '.'

def isWordStart (c : Char) : Bool :=
  c.isAlpha || c = '_'

def isWordChar (c : Char) : Bool :=
  c.isAlphanum || c = '_'

/-- The exponent at the start of a text, with its mark; empty unless it is complete. -/
def exponentOf : List Char → List Char
  | mark :: rest =>
    if mark = 'e' || mark = 'E' then
      match rest with
      | sign :: digits =>
        if sign = '+' || sign = '-' then
          match digits.takeWhile Char.isDigit with
          | [] => []
          | ds => mark :: sign :: ds
        else
          match rest.takeWhile Char.isDigit with
          | [] => []
          | ds => mark :: ds
      | [] => []
    else
      []
  | [] => []

def literalOf (s : List Char) : List Char :=
  s.takeWhile isNumberChar ++ exponentOf (s.dropWhile isNumberChar)

/-- The token at the start of a text, and how many characters it has besides the first. -/
def first (c : Char) (rest : List Char) : Token × Nat :=
  if isNumberChar c then
    let literal := literalOf (c :: rest)
    (number (String.ofList literal), literal.length - 1)
  else if isWordStart c then
    let name := c :: rest.takeWhile isWordChar
    (word (String.ofList name), name.length - 1)
  else
    (match c with
    | '+' => plus
    | '-' => minus
    | '*' => times
    | '/' => slash
    | '(' => opening
    | ')' => closing
    | ',' => comma
    | c => other c, 0)

def scan : List Char → List Lexeme
  | [] => []
  | c :: rest =>
    if Text.isAsciiBlank c then scan rest
    else
      let (token, more) := first c rest
      ⟨token, c :: rest⟩ :: scan (rest.drop more)
termination_by s => s.length
decreasing_by
  · simp
  · simp only [List.length_cons, List.length_drop]
    omega

end Token

end VideoScaler.Expression
