import VideoScaler.Error
import VideoScaler.Expression.Basic
import VideoScaler.Expression.Token
import VideoScaler.Number.Decimal

/-! Reading dimension expressions.

```text
sum     := product (('+' | '-') product)*
product := signed (('*' | '/') signed)*
signed  := '-' signed | '+' signed | operand
operand := number | variable | function '(' sum (',' sum)* ')' | '(' sum ')'
```

Every reader takes tokens from the front of a list and hands back the rest, with a proof
that the rest is shorter; the readers of repeated parts may take none.
-/

set_option autoImplicit false

namespace VideoScaler.Expression

/-- What a reader makes of the front of `ts`: a result and fewer tokens. -/
abbrev Taken (α : Type) (ts : List Lexeme) :=
  Except Defect { r : α × List Lexeme // r.2.length < ts.length }

abbrev TakenMaybe (α : Type) (ts : List Lexeme) :=
  Except Defect { r : α × List Lexeme // r.2.length ≤ ts.length }

def Token.sumOperator? : Token → Option Operator
  | plus => some .add
  | minus => some .sub
  | _ => none

def Token.productOperator? : Token → Option Operator
  | times => some .mul
  | slash => some .div
  | _ => none

def Lexeme.misplaced (l : Lexeme) : Defect :=
  match l.source with
  | c :: _ => .unexpectedCharacter c
  | [] => .unexpectedEnd

-- The readers that hand on their whole input are ordered by a second number, from arguments
-- down to operands; everywhere else the input gets shorter.
mutual

def readSum (ts : List Lexeme) : Taken Term ts :=
  match readProduct ts with
  | .error e => .error e
  | .ok ⟨(left, rest), h⟩ =>
    match readMoreProducts left rest with
    | .error e => .error e
    | .ok ⟨(t, rest'), h'⟩ => .ok ⟨(t, rest'), Nat.lt_of_le_of_lt h' h⟩
termination_by (ts.length, 4)

def readMoreProducts (left : Term) (ts : List Lexeme) : TakenMaybe Term ts :=
  match ts with
  | [] => .ok ⟨(left, []), Nat.le_refl _⟩
  | l :: rest =>
    match l.token.sumOperator? with
    | none => .ok ⟨(left, l :: rest), Nat.le_refl _⟩
    | some op =>
      match readProduct rest with
      | .error e => .error e
      | .ok ⟨(right, rest'), h⟩ =>
        match readMoreProducts (.binary op left right) rest' with
        | .error e => .error e
        | .ok ⟨(t, rest''), h'⟩ =>
          .ok ⟨(t, rest''), by simp only [List.length_cons] at h h' ⊢; omega⟩
termination_by (ts.length, 0)
decreasing_by
  · simp only [List.length_cons, Prod.lex_def]
    omega
  · simp only [List.length_cons, Prod.lex_def] at h ⊢
    omega

def readProduct (ts : List Lexeme) : Taken Term ts :=
  match readSigned ts with
  | .error e => .error e
  | .ok ⟨(left, rest), h⟩ =>
    match readMoreFactors left rest with
    | .error e => .error e
    | .ok ⟨(t, rest'), h'⟩ => .ok ⟨(t, rest'), Nat.lt_of_le_of_lt h' h⟩
termination_by (ts.length, 3)

def readMoreFactors (left : Term) (ts : List Lexeme) : TakenMaybe Term ts :=
  match ts with
  | [] => .ok ⟨(left, []), Nat.le_refl _⟩
  | l :: rest =>
    match l.token.productOperator? with
    | none => .ok ⟨(left, l :: rest), Nat.le_refl _⟩
    | some op =>
      match readSigned rest with
      | .error e => .error e
      | .ok ⟨(right, rest'), h⟩ =>
        match readMoreFactors (.binary op left right) rest' with
        | .error e => .error e
        | .ok ⟨(t, rest''), h'⟩ =>
          .ok ⟨(t, rest''), by simp only [List.length_cons] at h h' ⊢; omega⟩
termination_by (ts.length, 0)
decreasing_by
  · simp only [List.length_cons, Prod.lex_def]
    omega
  · simp only [List.length_cons, Prod.lex_def] at h ⊢
    omega

def readSigned (ts : List Lexeme) : Taken Term ts :=
  match ts with
  | [] => .error .unexpectedEnd
  | l :: rest =>
    match l.token with
    | .minus =>
      match readSigned rest with
      | .error e => .error e
      | .ok ⟨(t, rest'), h⟩ => .ok ⟨(.neg t, rest'), Nat.lt_succ_of_lt h⟩
    | .plus =>
      match readSigned rest with
      | .error e => .error e
      | .ok ⟨(t, rest'), h⟩ => .ok ⟨(t, rest'), Nat.lt_succ_of_lt h⟩
    | _ => readOperand l rest
termination_by (ts.length, 2)

def readOperand (l : Lexeme) (rest : List Lexeme) : Taken Term (l :: rest) :=
  match l.token with
  | .opening =>
    match readSum rest with
    | .error e => .error e
    | .ok ⟨(t, rest'), h⟩ =>
      match rest' with
      | ⟨.closing, _⟩ :: rest'' =>
        .ok ⟨(t, rest''), by simp only [List.length_cons] at h ⊢; omega⟩
      | _ => .error .missingClose
  | .number literal =>
    match Number.Decimal.read? literal.toList with
    | some d => .ok ⟨(.number d.toFloat, rest), Nat.lt_succ_self _⟩
    | none => .error (.invalidNumber literal)
  | .word name =>
    -- In front of a bracket a word is a function, even if a variable has the same name.
    match rest with
    | ⟨.opening, _⟩ :: rest' =>
      match Function.ofName? name with
      | none => .error (.unknownFunction name)
      | some f =>
        match readArguments rest' with
        | .error e => .error e
        | .ok ⟨(args, rest''), h⟩ =>
          match rest'' with
          | ⟨.closing, _⟩ :: rest''' =>
            match f.call? args with
            | some t => .ok ⟨(t, rest'''), by simp only [List.length_cons] at h ⊢; omega⟩
            | none => .error (.argumentCount name f.arity args.length)
          | _ => .error .missingClose
    | rest =>
      match Variable.ofName? name with
      | some v => .ok ⟨(.var v, rest), Nat.lt_succ_self _⟩
      | none => .error (.unknownVariable name)
  | _ => .error l.misplaced
termination_by (rest.length + 1, 1)

def readArguments (ts : List Lexeme) : Taken (List Term) ts :=
  match readSum ts with
  | .error e => .error e
  | .ok ⟨(t, rest), h⟩ =>
    match rest with
    | ⟨.comma, _⟩ :: rest' =>
      match readArguments rest' with
      | .error e => .error e
      | .ok ⟨(args, rest''), h'⟩ =>
        .ok ⟨(t :: args, rest''), by simp only [List.length_cons] at h h' ⊢; omega⟩
    | rest => .ok ⟨([t], rest), h⟩
termination_by (ts.length, 5)
decreasing_by
  · simp [Prod.lex_def]
  · simp only [List.length_cons, Prod.lex_def] at h ⊢
    omega

end

def readTerm (source : String) : Except Defect Term :=
  match readSum (Token.scan source.toList) with
  | .error e => .error e
  | .ok ⟨(t, rest), _⟩ =>
    match rest with
    | [] => .ok t
    | l :: _ => .error (.unexpectedRest (String.ofList l.source))

end VideoScaler.Expression

namespace VideoScaler

structure Expression where
  source : String
  term : Expression.Term

namespace Expression

def parse (source : String) : Except Error Expression :=
  match readTerm source with
  | .ok t => .ok ⟨source, t⟩
  | .error defect => .error (.expression source defect)

def eval (e : Expression) (vars : Vars) : Float :=
  e.term.eval vars

def uses (e : Expression) (v : Variable) : Bool :=
  e.term.uses v

end Expression

end VideoScaler
