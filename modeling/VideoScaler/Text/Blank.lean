/-! Blank characters and trimming.

Two classes are in use: the Unicode property of white space, which trimming follows, and
the five ASCII blanks that may stand between the parts of an expression.
-/

set_option autoImplicit false

namespace VideoScaler.Text

/-- The characters with the Unicode property of white space. -/
def isBlank (c : Char) : Bool :=
  let n := c.toNat
  (9 ≤ n && n ≤ 13) || n == 0x20 || n == 0x85 || n == 0xA0 || n == 0x1680
    || (0x2000 ≤ n && n ≤ 0x200A) || n == 0x2028 || n == 0x2029 || n == 0x202F
    || n == 0x205F || n == 0x3000

def isAsciiBlank (c : Char) : Bool :=
  let n := c.toNat
  n == 0x20 || n == 9 || n == 10 || n == 12 || n == 13

def trimList (s : List Char) : List Char :=
  ((s.dropWhile isBlank).reverse.dropWhile isBlank).reverse

def trim (s : String) : String :=
  String.ofList (trimList s.toList)

def lowerAscii (s : String) : String :=
  String.ofList (s.toList.map Char.toLower)

/-- The form in which option words are compared: trimmed, in lower case. -/
def keyword (s : String) : String :=
  lowerAscii (trim s)

def cutAt (mark : Char) : List Char → Option (List Char × List Char)
  | [] => none
  | c :: rest =>
    if c = mark then some ([], rest)
    else (cutAt mark rest).map fun (left, right) => (c :: left, right)

end VideoScaler.Text
