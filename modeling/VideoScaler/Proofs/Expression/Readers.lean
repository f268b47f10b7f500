import VideoScaler.Expression.Parser

/-! What the readers of expressions do, without the proofs that they take from their input.

Each reader has an equation for what it makes of its input, in terms of the readers that it calls;
operands and arguments have the ways in which they can be read.
-/

set_option autoImplicit false

namespace VideoScaler.Expression

variable {ts rest : List Lexeme} {l : Lexeme} {t left : Term}

def outcome {α : Type} {p : α × List Lexeme → Prop} (r : Except Defect { r // p r }) :
    Except Defect (α × List Lexeme) :=
  r.map Subtype.val

theorem outcome_readSum (ts : List Lexeme) :
    outcome (readSum ts) =
      (outcome (readProduct ts)).bind fun r => outcome (readMoreProducts r.1 r.2) := by
  rw [readSum]
  cases readProduct ts with
  | error e => rfl
  | ok r =>
    dsimp only [outcome, Except.map, Except.bind]
    cases readMoreProducts r.1.1 r.1.2 <;> rfl

theorem outcome_readProduct (ts : List Lexeme) :
    outcome (readProduct ts) =
      (outcome (readSigned ts)).bind fun r => outcome (readMoreFactors r.1 r.2) := by
  rw [readProduct]
  cases readSigned ts with
  | error e => rfl
  | ok r =>
    dsimp only [outcome, Except.map, Except.bind]
    cases readMoreFactors r.1.1 r.1.2 <;> rfl

theorem outcome_readMoreProducts_of_none (stops : ∀ l ∈ ts.head?, l.token.sumOperator? = none) :
    outcome (readMoreProducts t ts) = .ok (t, ts) := by
  cases ts with
  | nil =>
    rw [readMoreProducts]
    rfl
  | cons l rest =>
    rw [readMoreProducts]
    dsimp only
    rw [stops l rfl]
    rfl

theorem outcome_readMoreProducts {op : Operator} (more : l.token.sumOperator? = some op) :
    outcome (readMoreProducts left (l :: rest)) =
      (outcome (readProduct rest)).bind fun r =>
        outcome (readMoreProducts (.binary op left r.1) r.2) := by
  rw [readMoreProducts]
  dsimp only
  rw [more]
  dsimp only
  cases readProduct rest with
  | error e => rfl
  | ok r =>
    dsimp only [outcome, Except.map, Except.bind]
    cases readMoreProducts (.binary op left r.1.1) r.1.2 <;> rfl

theorem outcome_readMoreFactors_of_none
    (stops : ∀ l ∈ ts.head?, l.token.productOperator? = none) :
    outcome (readMoreFactors t ts) = .ok (t, ts) := by
  cases ts with
  | nil =>
    rw [readMoreFactors]
    rfl
  | cons l rest =>
    rw [readMoreFactors]
    dsimp only
    rw [stops l rfl]
    rfl

theorem outcome_readMoreFactors {op : Operator} (more : l.token.productOperator? = some op) :
    outcome (readMoreFactors left (l :: rest)) =
      (outcome (readSigned rest)).bind fun r =>
        outcome (readMoreFactors (.binary op left r.1) r.2) := by
  rw [readMoreFactors]
  dsimp only
  rw [more]
  dsimp only
  cases readSigned rest with
  | error e => rfl
  | ok r =>
    dsimp only [outcome, Except.map, Except.bind]
    cases readMoreFactors (.binary op left r.1.1) r.1.2 <;> rfl

theorem outcome_readSigned_minus (sign : l.token = .minus) :
    outcome (readSigned (l :: rest)) =
      (outcome (readSigned rest)).map fun r => (.neg r.1, r.2) := by
  rw [readSigned, sign]
  cases readSigned rest <;> rfl

theorem outcome_readSigned_plus (sign : l.token = .plus) :
    outcome (readSigned (l :: rest)) = outcome (readSigned rest) := by
  rw [readSigned, sign]
  cases readSigned rest <;> rfl

theorem outcome_readSigned (unsigned : l.token ≠ .minus ∧ l.token ≠ .plus) :
    outcome (readSigned (l :: rest)) = outcome (readOperand l rest) := by
  rw [readSigned]
  split
  case h_1 sign => exact absurd sign unsigned.1
  case h_2 sign => exact absurd sign unsigned.2
  case h_3 => rfl

inductive Operand : List Lexeme → Term → List Lexeme → Prop where
  | number {literal : String} {d : Number.Decimal} {source : List Char} {rest : List Lexeme}
    (valid : Number.Decimal.read? literal.toList = some d) :
    Operand (⟨.number literal, source⟩ :: rest) (.number d.toFloat) rest
  | var {name : String} {v : Variable} {source : List Char} {rest : List Lexeme}
    (named : Variable.ofName? name = some v) (alone : ∀ l ∈ rest.head?, l.token ≠ .opening) :
    Operand (⟨.word name, source⟩ :: rest) (.var v) rest
  | function {name : String} {f : Function} {args : List Term} {t : Term}
    {source opened closed : List Char} {ts rest : List Lexeme}
    (named : Function.ofName? name = some f)
    (read : outcome (readArguments ts) = .ok (args, ⟨.closing, closed⟩ :: rest))
    (called : f.call? args = some t) :
    Operand (⟨.word name, source⟩ :: ⟨.opening, opened⟩ :: ts) t rest
  | group {t : Term} {opened closed : List Char} {ts rest : List Lexeme}
    (read : outcome (readSum ts) = .ok (t, ⟨.closing, closed⟩ :: rest)) :
    Operand (⟨.opening, opened⟩ :: ts) t rest

theorem operand_of_read (read : outcome (readOperand l ts) = .ok (t, rest)) :
    Operand (l :: ts) t rest := by
  obtain ⟨token, source⟩ := l
  rw [readOperand] at read
  split at read
  case h_1 bracket =>
    subst bracket
    split at read
    case h_1 => cases read
    case h_2 inner mid fewer readInner =>
      split at read
      case h_1 =>
        cases read
        exact .group (by rw [readInner]; rfl)
      case h_2 => cases read
  case h_2 literal number =>
    subst number
    split at read
    case h_1 valid =>
      cases read
      exact .number valid
    case h_2 => cases read
  case h_3 name word =>
    subst word
    split at read
    case h_1 =>
      split at read
      case h_1 => cases read
      case h_2 f named =>
        split at read
        case h_1 => cases read
        case h_2 args mid fewer readInner =>
          split at read
          case h_1 =>
            split at read
            case h_1 called =>
              cases read
              exact .function named (by rw [readInner]; rfl) called
            case h_2 => cases read
          case h_2 => cases read
    case h_2 alone =>
      split at read
      case h_1 v named =>
        cases read
        refine .var named fun l first bracket => ?_
        obtain ⟨more, rfl⟩ := List.head?_eq_some_iff.1 first
        obtain ⟨token, opened⟩ := l
        subst bracket
        exact alone opened more rfl
      case h_2 => cases read
  case h_4 => cases read

theorem exists_of_outcome_eq_ok {α : Type} {p : α × List Lexeme → Prop}
    {r : Except Defect { r // p r }} {a : α} (done : outcome r = .ok (a, rest)) :
    ∃ proof, r = .ok ⟨(a, rest), proof⟩ := by
  cases r with
  | error e => cases done
  | ok r =>
    obtain ⟨r, proof⟩ := r
    cases done
    exact ⟨proof, rfl⟩

theorem exists_of_bind_eq_ok {α β : Type} {r : Except Defect α} {f : α → Except Defect β} {b : β}
    (done : r.bind f = .ok b) : ∃ a, r = .ok a ∧ f a = .ok b := by
  cases r with
  | error e => cases done
  | ok a => exact ⟨a, rfl, done⟩

theorem exists_of_map_eq_ok {α β : Type} {r : Except Defect α} {f : α → β} {b : β}
    (done : r.map f = .ok b) : ∃ a, r = .ok a ∧ f a = b := by
  cases r with
  | error e => cases done
  | ok a =>
    cases done
    exact ⟨a, rfl, rfl⟩

theorem length_lt_of_outcome {α : Type} {a : α} {r : Taken α ts}
    (done : outcome r = .ok (a, rest)) : rest.length < ts.length := by
  obtain ⟨shorter, -⟩ := exists_of_outcome_eq_ok done
  exact shorter

theorem read_of_operand (operand : Operand (l :: ts) t rest) :
    outcome (readOperand l ts) = .ok (t, rest) := by
  rw [readOperand]
  cases operand with
  | number valid =>
    dsimp only
    rw [valid]
    rfl
  | var named alone =>
    dsimp only
    split
    case h_1 => exact absurd rfl (alone _ rfl)
    case h_2 =>
      rw [named]
      rfl
  | function named read called =>
    obtain ⟨_, read⟩ := exists_of_outcome_eq_ok read
    dsimp only
    rw [named]
    dsimp only
    rw [read]
    dsimp only
    rw [called]
    rfl
  | group read =>
    obtain ⟨_, read⟩ := exists_of_outcome_eq_ok read
    dsimp only
    rw [read]
    rfl

inductive Arguments (ts : List Lexeme) : List Term → List Lexeme → Prop where
  | last {t : Term} {rest : List Lexeme} (read : outcome (readSum ts) = .ok (t, rest))
    (ends : ∀ l ∈ rest.head?, l.token ≠ .comma) : Arguments ts [t] rest
  | more {t : Term} {args : List Term} {source : List Char} {mid rest : List Lexeme}
    (read : outcome (readSum ts) = .ok (t, ⟨.comma, source⟩ :: mid))
    (others : outcome (readArguments mid) = .ok (args, rest)) : Arguments ts (t :: args) rest

theorem arguments_of_read {args : List Term}
    (read : outcome (readArguments ts) = .ok (args, rest)) : Arguments ts args rest := by
  rw [readArguments] at read
  split at read
  case h_1 => cases read
  case h_2 t mid fewer readFirst =>
    split at read
    case h_1 =>
      split at read
      case h_1 => cases read
      case h_2 readOthers =>
        cases read
        exact .more (by rw [readFirst]; rfl) (by rw [readOthers]; rfl)
    case h_2 ends =>
      cases read
      refine .last (by rw [readFirst]; rfl) fun l first comma => ?_
      obtain ⟨more, rfl⟩ := List.head?_eq_some_iff.1 first
      obtain ⟨token, source⟩ := l
      subst comma
      exact ends source more fewer rfl HEq.rfl

theorem read_of_arguments {args : List Term} (arguments : Arguments ts args rest) :
    outcome (readArguments ts) = .ok (args, rest) := by
  rw [readArguments]
  cases arguments with
  | last read ends =>
    obtain ⟨_, read⟩ := exists_of_outcome_eq_ok read
    rw [read]
    dsimp only
    split
    case h_1 => exact absurd rfl (ends _ rfl)
    case h_2 => rfl
  | more read others =>
    obtain ⟨_, read⟩ := exists_of_outcome_eq_ok read
    obtain ⟨_, others⟩ := exists_of_outcome_eq_ok others
    rw [read]
    dsimp only
    rw [others]
    rfl

theorem Operand.unsigned (operand : Operand (l :: ts) t rest) :
    l.token ≠ .minus ∧ l.token ≠ .plus := by
  cases operand <;> exact ⟨Token.noConfusion, Token.noConfusion⟩

end VideoScaler.Expression
