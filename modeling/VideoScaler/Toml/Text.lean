/-! Quoted texts of configuration files.

A basic text stands between double quotes and knows escapes; a literal text stands between
single quotes and knows none. Between tripled quotes a text may span lines: a line break
right after the opening is dropped, line breaks count as line feeds, up to two quotes may
stand before the closing ones, and a backslash at the end of a line of a basic text drops
the break and all blanks after it.

Every reader starts after the opening quotes and hands back what follows the closing ones.
-/

set_option autoImplicit false

namespace VideoScaler.Toml

def isSpace (c : Char) : Bool :=
  c = ' ' || c = '\t'

def isPlain (c : Char) : Bool :=
  c = '\t' || (0x20 ≤ c.toNat && c.toNat ≠ 0x7F)

def isBasicPlain (c : Char) : Bool :=
  isPlain c && c ≠ '"' && c ≠ '\\'

def isLiteralPlain (c : Char) : Bool :=
  isPlain c && c ≠ '\''

theorem ne_of_class {p : Char → Bool} {c mark : Char} (inside : p c = true)
    (outside : p mark = false) : c ≠ mark := by
  rintro rfl
  rw [inside] at outside
  cases outside

def afterBreak? : List Char → Option (List Char)
  | '\n' :: rest => some rest
  | '\r' :: '\n' :: rest => some rest
  | _ => none

def dropBreak (s : List Char) : List Char :=
  (afterBreak? s).getD s

def shortEscape? : Char → Option Char
  | 'b' => some '\x08'
  | 't' => some '\t'
  | 'n' => some '\n'
  | 'f' => some '\x0c'
  | 'r' => some '\r'
  | '"' => some '"'
  | '\\' => some '\\'
  | _ => none

def digitValue? (c : Char) : Option Nat :=
  if '0' ≤ c && c ≤ '9' then some (c.toNat - 48)
  else if 'a' ≤ c && c ≤ 'f' then some (c.toNat - 87)
  else if 'A' ≤ c && c ≤ 'F' then some (c.toNat - 55)
  else none

def scalar? (digits : List Char) : Option Char := do
  let code ← digits.foldlM (fun n c => (digitValue? c).map fun d => n * 16 + d) 0
  if h : code.isValidChar then some (Char.ofNatAux code h) else none

def push (c : Char) (r : List Char × List Char) : List Char × List Char :=
  (c :: r.1, r.2)

def readBasic : List Char → Option (List Char × List Char)
  | '"' :: rest => some ([], rest)
  | '\\' :: 'u' :: a :: b :: c :: d :: rest => do
    let x ← scalar? [a, b, c, d]
    (readBasic rest).map (push x)
  | '\\' :: 'U' :: a :: b :: c :: d :: e :: f :: g :: h :: rest => do
    let x ← scalar? [a, b, c, d, e, f, g, h]
    (readBasic rest).map (push x)
  | '\\' :: e :: rest => do
    let x ← shortEscape? e
    (readBasic rest).map (push x)
  | c :: rest => if isBasicPlain c then (readBasic rest).map (push c) else none
  | [] => none

def readLiteral : List Char → Option (List Char × List Char)
  | '\'' :: rest => some ([], rest)
  | c :: rest => if isLiteralPlain c then (readLiteral rest).map (push c) else none
  | [] => none

def endsLine (s : List Char) : Bool :=
  (afterBreak? (s.dropWhile isSpace)).isSome

/-- The rest of a basic text over several lines; `skipping` while the blanks after a
backslash at the end of a line are dropped. -/
def readBasicLines (skipping : Bool) : List Char → Option (List Char × List Char)
  | '"' :: '"' :: '"' :: '"' :: '"' :: rest => some (['"', '"'], rest)
  | '"' :: '"' :: '"' :: '"' :: rest => some (['"'], rest)
  | '"' :: '"' :: '"' :: rest => some ([], rest)
  | '\r' :: '\n' :: rest =>
    if skipping then readBasicLines true rest
    else (readBasicLines false rest).map (push '\n')
  | '\\' :: 'u' :: a :: b :: c :: d :: rest => do
    let x ← scalar? [a, b, c, d]
    (readBasicLines false rest).map (push x)
  | '\\' :: 'U' :: a :: b :: c :: d :: e :: f :: g :: h :: rest => do
    let x ← scalar? [a, b, c, d, e, f, g, h]
    (readBasicLines false rest).map (push x)
  | '\\' :: e :: rest =>
    if endsLine (e :: rest) then readBasicLines true (e :: rest)
    else do
      let x ← shortEscape? e
      (readBasicLines false rest).map (push x)
  | c :: rest =>
    if skipping && (isSpace c || c = '\n') then readBasicLines true rest
    else if c = '"' || c = '\n' || isBasicPlain c then (readBasicLines false rest).map (push c)
    else none
  | [] => none

def readLiteralLines : List Char → Option (List Char × List Char)
  | '\'' :: '\'' :: '\'' :: '\'' :: '\'' :: rest => some (['\'', '\''], rest)
  | '\'' :: '\'' :: '\'' :: '\'' :: rest => some (['\''], rest)
  | '\'' :: '\'' :: '\'' :: rest => some ([], rest)
  | '\r' :: '\n' :: rest => (readLiteralLines rest).map (push '\n')
  | c :: rest =>
    if c = '\'' || c = '\n' || isLiteralPlain c then (readLiteralLines rest).map (push c)
    else none
  | [] => none

def readQuoted? : List Char → Option (List Char × List Char)
  | '"' :: '"' :: '"' :: rest => readBasicLines false (dropBreak rest)
  | '"' :: rest => readBasic rest
  | '\'' :: '\'' :: '\'' :: rest => readLiteralLines (dropBreak rest)
  | '\'' :: rest => readLiteral rest
  | _ => none

def readText? (s : List Char) : Option (String × List Char) :=
  (readQuoted? s).map fun r => (String.ofList r.1, r.2)

def hexDigit (n : Nat) : Char :=
  Char.ofNat (if n < 10 then 48 + n else 55 + n)

/-- How a character is written in a basic text; over several lines a line feed stands for
itself. -/
def escape (multiline : Bool) (c : Char) : List Char :=
  if c = '\x08' then ['\\', 'b']
  else if c = '\t' then ['\\', 't']
  else if c = '\n' then if multiline then ['\n'] else ['\\', 'n']
  else if c = '\x0c' then ['\\', 'f']
  else if c = '\r' then ['\\', 'r']
  else if c = '"' then ['\\', '"']
  else if c = '\\' then ['\\', '\\']
  else if isPlain c then [c]
  else ['\\', 'u', '0', '0', hexDigit (c.toNat / 16), hexDigit (c.toNat % 16)]

/-- Write a basic text, over several lines when it has a line feed. -/
def writeText (s : List Char) : List Char :=
  if s.contains '\n' then
    ['"', '"', '"', '\n'] ++ s.flatMap (escape true) ++ ['"', '"', '"']
  else
    '"' :: s.flatMap (escape false) ++ ['"']

end VideoScaler.Toml
