import VideoScaler.Document
import VideoScaler.Number.Decimal
import VideoScaler.Toml.Text

/-! Numbers, truth values, dates and times of configuration files.

Every reader takes what it can from the front of a text and hands back the rest; what may
follow is not its concern.
-/

set_option autoImplicit false

namespace VideoScaler.Toml

/-- Digits between which single underscores may stand; the underscores are left out. -/
def readDigits? (isDigit : Char → Bool) : List Char → Option (List Char × List Char)
  | c :: '_' :: rest =>
    if isDigit c then (readDigits? isDigit rest).map (push c) else none
  | c :: d :: rest =>
    if isDigit c then
      if isDigit d then (readDigits? isDigit (d :: rest)).map (push c) else some ([c], d :: rest)
    else
      none
  | [c] => if isDigit c then some ([c], []) else none
  | [] => none

def readSign : List Char → List Char × List Char
  | '+' :: rest => (['+'], rest)
  | '-' :: rest => (['-'], rest)
  | s => ([], s)

/-- A decimal integer with its sign; a leading zero stands alone. -/
def readDecimal? (s : List Char) : Option (List Char × List Char) :=
  match readSign s with
  | (sign, '0' :: rest) => some (sign ++ ['0'], rest)
  | (sign, s) => (readDigits? Char.isDigit s).map fun r => (sign ++ r.1, r.2)

def isBinaryDigit (c : Char) : Bool :=
  c = '0' || c = '1'

def isOctalDigit (c : Char) : Bool :=
  '0' ≤ c && c ≤ '7'

def isHexDigit (c : Char) : Bool :=
  (digitValue? c).isSome

def valueIn (base : Nat) (digits : List Char) : Nat :=
  digits.foldl (fun n c => n * base + (digitValue? c).getD 0) 0

def integer? (n : Int) : Option Document :=
  if -9223372036854775808 ≤ n ∧ n ≤ 9223372036854775807 then some (.integer n) else none

def readBased? (base : Nat) (isDigit : Char → Bool) (s : List Char) :
    Option (Document × List Char) := do
  let (digits, rest) ← readDigits? isDigit s
  return (← integer? (valueIn base digits), rest)

def readInteger? (s : List Char) : Option (Document × List Char) :=
  match s with
  | '0' :: 'x' :: rest => readBased? 16 isHexDigit rest
  | '0' :: 'o' :: rest => readBased? 8 isOctalDigit rest
  | '0' :: 'b' :: rest => readBased? 2 isBinaryDigit rest
  | s => do
    let (digits, rest) ← readDecimal? s
    return (← integer? (← Number.readSigned? digits), rest)

def readFraction? : List Char → Option (List Char × List Char)
  | '.' :: rest => (readDigits? Char.isDigit rest).map (push '.')
  | _ => none

def readExponent? : List Char → Option (List Char × List Char)
  | mark :: rest =>
    if mark = 'e' || mark = 'E' then
      let (sign, rest) := readSign rest
      (readDigits? Char.isDigit rest).map fun r => ('e' :: sign ++ r.1, r.2)
    else
      none
  | [] => none

/-- The literal of a real number: a fraction, an exponent or both follow an integer. -/
def readRealLiteral? (s : List Char) : Option (List Char × List Char) := do
  let (whole, rest) ← readDecimal? s
  match readFraction? rest with
  | none => (readExponent? rest).map fun r => (whole ++ r.1, r.2)
  | some (fraction, rest) =>
    match readExponent? rest with
    | none => return (whole ++ fraction, rest)
    | some (exponent, rest) => return (whole ++ fraction ++ exponent, rest)

def realValue? : List Char → Option Float
  | '-' :: digits => (Number.Decimal.read? digits).map fun d => -d.toFloat
  | '+' :: digits => (Number.Decimal.read? digits).map Number.Decimal.toFloat
  | digits => (Number.Decimal.read? digits).map Number.Decimal.toFloat

def infinity : Float := Float.ofBits 0x7FF0000000000000

def readSpecial? (s : List Char) : Option (Document × List Char) :=
  match readSign s with
  | (sign, 'i' :: 'n' :: 'f' :: rest) =>
    some (.real (if sign = ['-'] then -infinity else infinity), rest)
  | (_, 'n' :: 'a' :: 'n' :: rest) => some (.real (Float.ofBits 0x7FF8000000000000), rest)
  | _ => none

/-- A real number; one past the greatest double is refused. -/
def readReal? (s : List Char) : Option (Document × List Char) :=
  match readRealLiteral? s with
  | some (literal, rest) => do
    let value ← realValue? literal
    if value == infinity then none else some (.real value, rest)
  | none => readSpecial? s

def readTwo? (high : Nat) : List Char → Option (Nat × List Char)
  | a :: b :: rest =>
    if a.isDigit && b.isDigit && Number.digitsValue [a, b] ≤ high then
      some (Number.digitsValue [a, b], rest)
    else
      none
  | _ => none

def isLeapYear (year : Nat) : Bool :=
  year % 4 = 0 && (year % 100 ≠ 0 || year % 400 = 0)

def daysIn (year month : Nat) : Nat :=
  if month = 2 then if isLeapYear year then 29 else 28
  else if month = 4 || month = 6 || month = 9 || month = 11 then 30
  else 31

def afterDate? : List Char → Option (List Char)
  | a :: b :: c :: d :: '-' :: rest =>
    if [a, b, c, d].all Char.isDigit then
      match readTwo? 12 rest with
      | some (month, '-' :: rest) =>
        if month = 0 then none
        else
          match readTwo? (daysIn (Number.digitsValue [a, b, c, d]) month) rest with
          | some (day, rest) => if day = 0 then none else some rest
          | none => none
      | _ => none
    else
      none
  | _ => none

def afterMinutes? (s : List Char) : Option (List Char) :=
  match readTwo? 23 s with
  | some (_, ':' :: rest) => (readTwo? 59 rest).map Prod.snd
  | _ => none

def afterTime? (s : List Char) : Option (List Char) :=
  match afterMinutes? s with
  | some (':' :: rest) =>
    (readTwo? 60 rest).bind fun r =>
      match r.2 with
      | '.' :: fraction =>
        if fraction.takeWhile Char.isDigit = [] then none
        else some (fraction.dropWhile Char.isDigit)
      | rest => some rest
  | _ => none

def afterZone? : List Char → Option (List Char)
  | 'Z' :: rest => some rest
  | 'z' :: rest => some rest
  | '+' :: rest => afterMinutes? rest
  | '-' :: rest => afterMinutes? rest
  | rest => some rest

/-- The text after a time and its zone that follow a date, if they do. -/
def afterDayTime? : List Char → Option (List Char)
  | c :: rest =>
    if c = 'T' || c = 't' || c = ' ' then
      match afterTime? rest with
      | some rest => afterZone? rest
      | none => some (c :: rest)
    else
      some (c :: rest)
  | [] => some []

def readMoment? (s : List Char) : Option (Document × List Char) := do
  let rest ← match afterDate? s with
    | some rest => afterDayTime? rest
    | none => afterTime? s
  return (.moment (String.ofList (s.take (s.length - rest.length))), rest)

def readScalar? (s : List Char) : Option (Document × List Char) :=
  match s with
  | 't' :: 'r' :: 'u' :: 'e' :: rest => some (.bool true, rest)
  | 'f' :: 'a' :: 'l' :: 's' :: 'e' :: rest => some (.bool false, rest)
  | s => readMoment? s <|> readReal? s <|> readInteger? s

end VideoScaler.Toml
