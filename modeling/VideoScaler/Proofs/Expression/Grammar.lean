import VideoScaler.Proofs.Expression.Lexing
import VideoScaler.Proofs.Expression.Readers

/-! The grammar of dimension expressions, and the terms that its derivations mean.

```text
sum     := product (('+' | '-') product)*
product := signed (('*' | '/') signed)*
signed  := '-' signed | '+' signed | operand
operand := number | variable | function '(' sum (',' sum)* ')' | '(' sum ')'
```

A text is read as an expression just if its tokens derive from `sum`, and as the term of that
derivation.
-/

set_option autoImplicit false

namespace VideoScaler.Expression

inductive Part where
  | sum | product | signed | operand
  deriving DecidableEq, Repr

/-- The derivations of the grammar. Chains of operators grow to the right, so their terms nest to
the left. No rule lets an opening bracket follow an operand, so a variable is never in front of
one. -/
inductive Derives : Part → List Token → Term → Prop where
  | product {ts : List Token} {t : Term} (inner : Derives .product ts t) : Derives .sum ts t
  | add {ts us : List Token} {left right : Term} (first : Derives .sum ts left)
    (second : Derives .product us right) :
    Derives .sum (ts ++ .plus :: us) (.binary .add left right)
  | sub {ts us : List Token} {left right : Term} (first : Derives .sum ts left)
    (second : Derives .product us right) :
    Derives .sum (ts ++ .minus :: us) (.binary .sub left right)
  | signed {ts : List Token} {t : Term} (inner : Derives .signed ts t) : Derives .product ts t
  | mul {ts us : List Token} {left right : Term} (first : Derives .product ts left)
    (second : Derives .signed us right) :
    Derives .product (ts ++ .times :: us) (.binary .mul left right)
  | div {ts us : List Token} {left right : Term} (first : Derives .product ts left)
    (second : Derives .signed us right) :
    Derives .product (ts ++ .slash :: us) (.binary .div left right)
  | operand {ts : List Token} {t : Term} (inner : Derives .operand ts t) : Derives .signed ts t
  | neg {ts : List Token} {t : Term} (inner : Derives .signed ts t) :
    Derives .signed (.minus :: ts) (.neg t)
  | pos {ts : List Token} {t : Term} (inner : Derives .signed ts t) :
    Derives .signed (.plus :: ts) t
  | number {literal : String} {d : Number.Decimal}
    (valid : Number.Decimal.read? literal.toList = some d) :
    Derives .operand [.number literal] (.number d.toFloat)
  | var {name : String} {v : Variable} (named : Variable.ofName? name = some v) :
    Derives .operand [.word name] (.var v)
  | choice {name : String} {f : Choice} {ts us : List Token} {left right : Term}
    (named : Function.ofName? name = some (.choice f)) (first : Derives .sum ts left)
    (second : Derives .sum us right) :
    Derives .operand (.word name :: .opening :: (ts ++ .comma :: (us ++ [.closing])))
      (.choose f left right)
  | rounding {name : String} {f : Rounding} {ts : List Token} {t : Term}
    (named : Function.ofName? name = some (.rounding f)) (inner : Derives .sum ts t) :
    Derives .operand (.word name :: .opening :: (ts ++ [.closing])) (.round f t)
  | group {ts : List Token} {t : Term} (inner : Derives .sum ts t) :
    Derives .operand (.opening :: (ts ++ [.closing])) t

variable {ts rest : List Lexeme} {l : Lexeme} {t left right : Term}

/-! ### What is read derives from the grammar -/

def Reads (part : Part) (ts : List Lexeme) (t : Term) (rest : List Lexeme) : Prop :=
  ∃ used, ts = used ++ rest ∧ Derives part (used.map Lexeme.token) t

def Extends (part : Part) (left : Term) (ts : List Lexeme) (t : Term) (rest : List Lexeme) :
    Prop :=
  ∃ used, ts = used ++ rest ∧
    ∀ before, Derives part before left → Derives part (before ++ used.map Lexeme.token) t

inductive DerivesArguments : List Token → List Term → Prop where
  | last {ts : List Token} {t : Term} (inner : Derives .sum ts t) : DerivesArguments ts [t]
  | more {ts us : List Token} {t : Term} {args : List Term} (first : Derives .sum ts t)
    (others : DerivesArguments us args) : DerivesArguments (ts ++ .comma :: us) (t :: args)

theorem DerivesArguments.call {ts : List Token} {args : List Term} {name : String} {f : Function}
    (given : DerivesArguments ts args) (named : Function.ofName? name = some f)
    (called : f.call? args = some t) :
    Derives .operand (.word name :: .opening :: (ts ++ [.closing])) t := by
  cases f with
  | choice f =>
    cases given with
    | last _ => cases called
    | more first others =>
      cases others with
      | more _ others => cases others <;> cases called
      | last second =>
        cases called
        rw [List.append_assoc]
        exact .choice named first second
  | rounding f =>
    cases given with
    | last inner =>
      cases called
      exact .rounding named inner
    | more _ others => cases others <;> cases called

theorem Extends.refl (part : Part) (ts : List Lexeme) (t : Term) : Extends part t ts t ts := by
  refine ⟨[], rfl, fun before derived => ?_⟩
  rw [List.map_nil, List.append_nil]
  exact derived

theorem Extends.step {part inner : Part} {right joined : Term} {mid ts : List Lexeme}
    (join : ∀ before us, Derives part before left → Derives inner us right →
      Derives part (before ++ l.token :: us) joined)
    (next : Reads inner ts right mid) (more : Extends part joined mid t rest) :
    Extends part left (l :: ts) t rest := by
  obtain ⟨operand, rfl, derived⟩ := next
  obtain ⟨others, rfl, carry⟩ := more
  refine ⟨l :: (operand ++ others), by simp, fun before sofar => ?_⟩
  have longer := carry _ (join before _ sofar derived)
  rw [List.append_assoc, List.cons_append, ← List.map_append] at longer
  exact longer

theorem Reads.extend {part inner : Part} {mid : List Lexeme}
    (start : ∀ us, Derives inner us left → Derives part us left)
    (first : Reads inner ts left mid) (more : Extends part left mid t rest) :
    Reads part ts t rest := by
  obtain ⟨operand, rfl, derived⟩ := first
  obtain ⟨others, rfl, carry⟩ := more
  refine ⟨operand ++ others, by simp, ?_⟩
  rw [List.map_append]
  exact carry _ (start _ derived)

theorem Derives.of_sumOperator {ts us : List Token} {token : Token} {op : Operator}
    (chosen : token.sumOperator? = some op) (first : Derives .sum ts left)
    (second : Derives .product us right) :
    Derives .sum (ts ++ token :: us) (.binary op left right) := by
  cases token <;> cases chosen
  case plus => exact .add first second
  case minus => exact .sub first second

theorem Derives.of_productOperator {ts us : List Token} {token : Token} {op : Operator}
    (chosen : token.productOperator? = some op) (first : Derives .product ts left)
    (second : Derives .signed us right) :
    Derives .product (ts ++ token :: us) (.binary op left right) := by
  cases token <;> cases chosen
  case times => exact .mul first second
  case slash => exact .div first second

-- The theorems call each other as the readers do, and for the same reason come to an end.
mutual

theorem sum_of_read {ts rest : List Lexeme} {t : Term}
    (read : outcome (readSum ts) = .ok (t, rest)) : Reads .sum ts t rest := by
  rw [outcome_readSum] at read
  obtain ⟨⟨left, mid⟩, first, more⟩ := exists_of_bind_eq_ok read
  have shorter := length_lt_of_outcome first
  exact .extend (fun _ => .product) (product_of_read first) (moreProducts_of_read more)
termination_by (ts.length, 4)

theorem moreProducts_of_read {ts rest : List Lexeme} {left t : Term}
    (read : outcome (readMoreProducts left ts) = .ok (t, rest)) : Extends .sum left ts t rest := by
  cases ts with
  | nil =>
    rw [outcome_readMoreProducts_of_none (by simp)] at read
    cases read
    exact .refl ..
  | cons l ts =>
    cases chosen : l.token.sumOperator? with
    | none =>
      rw [outcome_readMoreProducts_of_none (by simp [chosen])] at read
      cases read
      exact .refl ..
    | some op =>
      rw [outcome_readMoreProducts chosen] at read
      obtain ⟨⟨right, mid⟩, next, more⟩ := exists_of_bind_eq_ok read
      have shorter := length_lt_of_outcome next
      exact .step (fun _ _ => .of_sumOperator chosen) (product_of_read next)
        (moreProducts_of_read more)
termination_by (ts.length, 0)
decreasing_by
  all_goals
    subst_vars
    simp only [List.length_cons, Prod.lex_def]
    omega

theorem product_of_read {ts rest : List Lexeme} {t : Term}
    (read : outcome (readProduct ts) = .ok (t, rest)) : Reads .product ts t rest := by
  rw [outcome_readProduct] at read
  obtain ⟨⟨left, mid⟩, first, more⟩ := exists_of_bind_eq_ok read
  have shorter := length_lt_of_outcome first
  exact .extend (fun _ => .signed) (signed_of_read first) (moreFactors_of_read more)
termination_by (ts.length, 3)

theorem moreFactors_of_read {ts rest : List Lexeme} {left t : Term}
    (read : outcome (readMoreFactors left ts) = .ok (t, rest)) :
    Extends .product left ts t rest := by
  cases ts with
  | nil =>
    rw [outcome_readMoreFactors_of_none (by simp)] at read
    cases read
    exact .refl ..
  | cons l ts =>
    cases chosen : l.token.productOperator? with
    | none =>
      rw [outcome_readMoreFactors_of_none (by simp [chosen])] at read
      cases read
      exact .refl ..
    | some op =>
      rw [outcome_readMoreFactors chosen] at read
      obtain ⟨⟨right, mid⟩, next, more⟩ := exists_of_bind_eq_ok read
      have shorter := length_lt_of_outcome next
      exact .step (fun _ _ => .of_productOperator chosen) (signed_of_read next)
        (moreFactors_of_read more)
termination_by (ts.length, 0)
decreasing_by
  all_goals
    subst_vars
    simp only [List.length_cons, Prod.lex_def]
    omega

theorem signed_of_read {ts rest : List Lexeme} {t : Term}
    (read : outcome (readSigned ts) = .ok (t, rest)) : Reads .signed ts t rest := by
  cases ts with
  | nil =>
    rw [readSigned] at read
    cases read
  | cons l ts =>
    by_cases minus : l.token = .minus
    · rw [outcome_readSigned_minus minus] at read
      obtain ⟨r, inner, same⟩ := exists_of_map_eq_ok read
      cases same
      obtain ⟨used, split, derived⟩ := signed_of_read inner
      refine ⟨l :: used, by rw [split]; rfl, ?_⟩
      rw [List.map_cons, minus]
      exact .neg derived
    · by_cases plus : l.token = .plus
      · rw [outcome_readSigned_plus plus] at read
        obtain ⟨used, split, derived⟩ := signed_of_read read
        refine ⟨l :: used, by rw [split]; rfl, ?_⟩
        rw [List.map_cons, plus]
        exact .pos derived
      · rw [outcome_readSigned ⟨minus, plus⟩] at read
        obtain ⟨used, split, derived⟩ := operand_of_outcome read
        exact ⟨used, split, .operand derived⟩
termination_by (ts.length, 2)
decreasing_by
  all_goals
    subst_vars
    simp [Prod.lex_def]

theorem operand_of_outcome {l : Lexeme} {ts rest : List Lexeme} {t : Term}
    (read : outcome (readOperand l ts) = .ok (t, rest)) : Reads .operand (l :: ts) t rest := by
  cases operand_of_read read with
  | number valid => exact ⟨[⟨_, _⟩], rfl, .number valid⟩
  | var named _ => exact ⟨[⟨_, _⟩], rfl, .var named⟩
  | @function name f args t source opened closed ts rest named read called =>
    obtain ⟨used, rfl, given⟩ := arguments_of_outcome read
    refine ⟨⟨.word name, source⟩ :: ⟨.opening, opened⟩ :: (used ++ [⟨.closing, closed⟩]),
      by simp, ?_⟩
    simpa using given.call named called
  | @group t opened closed ts rest read =>
    obtain ⟨used, rfl, derived⟩ := sum_of_read read
    refine ⟨⟨.opening, opened⟩ :: (used ++ [⟨.closing, closed⟩]), by simp, ?_⟩
    simpa using Derives.group derived
termination_by (ts.length + 1, 1)

theorem arguments_of_outcome {ts rest : List Lexeme} {args : List Term}
    (read : outcome (readArguments ts) = .ok (args, rest)) :
    ∃ used, ts = used ++ rest ∧ DerivesArguments (used.map Lexeme.token) args := by
  cases arguments_of_read read with
  | last first _ =>
    obtain ⟨used, split, derived⟩ := sum_of_read first
    exact ⟨used, split, .last derived⟩
  | @more t args source mid rest first others =>
    have shorter := length_lt_of_outcome first
    obtain ⟨used, split, derived⟩ := sum_of_read first
    obtain ⟨more, rfl, given⟩ := arguments_of_outcome others
    refine ⟨used ++ ⟨.comma, source⟩ :: more, by rw [split]; simp, ?_⟩
    rw [List.map_append, List.map_cons]
    exact .more derived given
termination_by (ts.length, 5)

end

/-! ### What derives from the grammar is read -/

def Part.read : Part → List Lexeme → Except Defect (Term × List Lexeme)
  | .sum, ts => outcome (readSum ts)
  | .product, ts => outcome (readProduct ts)
  | .signed, ts => outcome (readSigned ts)
  | .operand, l :: ts => outcome (readOperand l ts)
  | .operand, [] => .error .unexpectedEnd

def Part.resume : Part → Term → List Lexeme → Except Defect (Term × List Lexeme)
  | .sum, t, rest => outcome (readMoreProducts t rest)
  | .product, t, rest => outcome (readMoreFactors t rest)
  | .signed, t, rest | .operand, t, rest => .ok (t, rest)

/-- Whether a token may follow a part, or leaves the part open. A bracket would make a function of
a variable, and a chain of factors goes on before a chain of products does. -/
def Part.Stops : Part → Token → Prop
  | .sum, token => token ≠ .opening ∧ token.productOperator? = none
  | .product, token | .signed, token | .operand, token => token ≠ .opening

/-- A reader that starts with these tokens takes them all and goes on with their term. -/
def Part.Takes (part : Part) (tokens : List Token) (t : Term) : Prop :=
  ∀ ts rest, ts.map Lexeme.token = tokens → (∀ l ∈ rest.head?, part.Stops l.token) →
    part.read (ts ++ rest) = part.resume t rest

section Takes

variable {tokens others : List Token} {token : Token} {op : Operator}

theorem exists_of_map_eq_cons (same : ts.map Lexeme.token = token :: tokens) :
    ∃ source more, ts = ⟨token, source⟩ :: more ∧ more.map Lexeme.token = tokens := by
  obtain ⟨l, more, rfl, rfl, rfl⟩ := List.map_eq_cons_iff.1 same
  exact ⟨l.source, more, rfl, rfl⟩

theorem exists_of_map_eq_append (same : ts.map Lexeme.token = others ++ token :: tokens) :
    ∃ before source more, ts = before ++ ⟨token, source⟩ :: more ∧
      before.map Lexeme.token = others ∧ more.map Lexeme.token = tokens := by
  obtain ⟨before, after, rfl, rfl, split⟩ := List.map_eq_append_iff.1 same
  obtain ⟨source, more, rfl, rfl⟩ := exists_of_map_eq_cons split
  exact ⟨before, source, more, rfl, rfl, rfl⟩

theorem Part.Takes.sum_of_product (inner : Part.product.Takes tokens t) :
    Part.sum.Takes tokens t := by
  intro ts rest same stops
  have read : outcome (readProduct (ts ++ rest)) = .ok (t, rest) :=
    (inner ts rest same fun l first => (stops l first).1).trans
      (outcome_readMoreFactors_of_none fun l first => (stops l first).2)
  exact (outcome_readSum _).trans (by rw [read]; rfl)

theorem Part.Takes.sum (chosen : token.sumOperator? = some op)
    (first : Part.sum.Takes others left) (second : Part.product.Takes tokens right) :
    Part.sum.Takes (others ++ token :: tokens) (.binary op left right) := by
  intro ts rest same stops
  obtain ⟨before, source, more, rfl, rfl, rfl⟩ := exists_of_map_eq_append same
  have closes : Part.sum.Stops token := by
    refine ⟨?_, ?_⟩
    · rintro rfl
      cases chosen
    · cases token <;> first | rfl | cases chosen
  have readFirst := first before (⟨token, source⟩ :: (more ++ rest)) rfl (by simpa using closes)
  have readSecond : outcome (readProduct (more ++ rest)) = .ok (right, rest) :=
    (second more rest rfl fun l first => (stops l first).1).trans
      (outcome_readMoreFactors_of_none fun l first => (stops l first).2)
  rw [List.append_assoc, List.cons_append, readFirst]
  exact (outcome_readMoreProducts chosen).trans (by rw [readSecond]; rfl)

theorem Part.Takes.product_of_signed (inner : Part.signed.Takes tokens t) :
    Part.product.Takes tokens t := by
  intro ts rest same stops
  have read : outcome (readSigned (ts ++ rest)) = .ok (t, rest) := inner ts rest same stops
  exact (outcome_readProduct _).trans (by rw [read]; rfl)

theorem Part.Takes.product (chosen : token.productOperator? = some op)
    (first : Part.product.Takes others left) (second : Part.signed.Takes tokens right) :
    Part.product.Takes (others ++ token :: tokens) (.binary op left right) := by
  intro ts rest same stops
  obtain ⟨before, source, more, rfl, rfl, rfl⟩ := exists_of_map_eq_append same
  have closes : Part.product.Stops token := by
    rintro rfl
    cases chosen
  have readFirst := first before (⟨token, source⟩ :: (more ++ rest)) rfl (by simpa using closes)
  have readSecond : outcome (readSigned (more ++ rest)) = .ok (right, rest) :=
    second more rest rfl stops
  rw [List.append_assoc, List.cons_append, readFirst]
  exact (outcome_readMoreFactors chosen).trans (by rw [readSecond]; rfl)

theorem Part.Takes.signed_of_operand (inner : Part.operand.Takes tokens t) :
    Part.signed.Takes tokens t := by
  intro ts rest same stops
  have read := inner ts rest same stops
  cases all : ts ++ rest with
  | nil =>
    rw [all] at read
    cases read
  | cons l more =>
    rw [all] at read
    exact (outcome_readSigned (operand_of_read read).unsigned).trans read

theorem Part.Takes.neg (inner : Part.signed.Takes tokens t) :
    Part.signed.Takes (.minus :: tokens) (.neg t) := by
  intro ts rest same stops
  obtain ⟨source, more, rfl, rfl⟩ := exists_of_map_eq_cons same
  have read : outcome (readSigned (more ++ rest)) = .ok (t, rest) := inner more rest rfl stops
  have negated : outcome (readSigned (⟨.minus, source⟩ :: (more ++ rest))) = _ :=
    outcome_readSigned_minus rfl
  exact negated.trans (by rw [read]; rfl)

theorem Part.Takes.pos (inner : Part.signed.Takes tokens t) :
    Part.signed.Takes (.plus :: tokens) t := by
  intro ts rest same stops
  obtain ⟨source, more, rfl, rfl⟩ := exists_of_map_eq_cons same
  exact (outcome_readSigned_plus rfl).trans (inner more rest rfl stops)

theorem Part.Takes.read_delimited (inner : Part.sum.Takes tokens t) {before : List Lexeme}
    (same : before.map Lexeme.token = tokens) (delimiter : token = .closing ∨ token = .comma)
    (source : List Char) (rest : List Lexeme) :
    outcome (readSum (before ++ ⟨token, source⟩ :: rest)) = .ok (t, ⟨token, source⟩ :: rest) := by
  obtain rfl | rfl := delimiter
  all_goals
    refine (inner before _ same ?_).trans (outcome_readMoreProducts_of_none ?_)
    · simp [Part.Stops, Token.productOperator?]
    · simp [Token.sumOperator?]

theorem Part.Takes.group (inner : Part.sum.Takes tokens t) :
    Part.operand.Takes (.opening :: (tokens ++ [.closing])) t := by
  intro ts rest same _
  obtain ⟨opened, more, rfl, split⟩ := exists_of_map_eq_cons same
  obtain ⟨before, closed, last, rfl, rfl, done⟩ := exists_of_map_eq_append split
  obtain rfl := List.map_eq_nil_iff.1 done
  rw [List.cons_append, List.append_assoc, List.cons_append, List.nil_append]
  exact read_of_operand (.group (inner.read_delimited rfl (.inl rfl) closed rest))

theorem Part.Takes.rounding {name : String} {f : Rounding}
    (named : Function.ofName? name = some (.rounding f)) (inner : Part.sum.Takes tokens t) :
    Part.operand.Takes (.word name :: .opening :: (tokens ++ [.closing])) (.round f t) := by
  intro ts rest same _
  obtain ⟨source, bracketed, rfl, inBrackets⟩ := exists_of_map_eq_cons same
  obtain ⟨opened, more, rfl, split⟩ := exists_of_map_eq_cons inBrackets
  obtain ⟨before, closed, last, rfl, rfl, done⟩ := exists_of_map_eq_append split
  obtain rfl := List.map_eq_nil_iff.1 done
  have read := inner.read_delimited rfl (.inl rfl) closed rest
  have given := read_of_arguments (.last read (by simp))
  rw [List.cons_append, List.cons_append, List.append_assoc, List.cons_append, List.nil_append]
  exact read_of_operand (.function named given rfl)

theorem Part.Takes.choice {name : String} {f : Choice}
    (named : Function.ofName? name = some (.choice f)) (first : Part.sum.Takes others left)
    (second : Part.sum.Takes tokens right) :
    Part.operand.Takes (.word name :: .opening :: (others ++ .comma :: (tokens ++ [.closing])))
      (.choose f left right) := by
  intro ts rest same _
  obtain ⟨source, bracketed, rfl, inBrackets⟩ := exists_of_map_eq_cons same
  obtain ⟨opened, pair, rfl, apart⟩ := exists_of_map_eq_cons inBrackets
  obtain ⟨before, comma, more, rfl, rfl, split⟩ := exists_of_map_eq_append apart
  obtain ⟨after, closed, last, rfl, rfl, done⟩ := exists_of_map_eq_append split
  obtain rfl := List.map_eq_nil_iff.1 done
  have readFirst := first.read_delimited rfl (.inr rfl) comma
    (after ++ ⟨.closing, closed⟩ :: rest)
  have readSecond := second.read_delimited rfl (.inl rfl) closed rest
  have given := read_of_arguments
    (.more readFirst (read_of_arguments (.last readSecond (by simp))))
  have text : (⟨.word name, source⟩ :: ⟨.opening, opened⟩ ::
      (before ++ ⟨.comma, comma⟩ :: (after ++ [⟨.closing, closed⟩]))) ++ rest =
      ⟨.word name, source⟩ :: ⟨.opening, opened⟩ ::
        (before ++ ⟨.comma, comma⟩ :: (after ++ ⟨.closing, closed⟩ :: rest)) := by
    simp
  rw [text]
  exact read_of_operand (.function named given rfl)

theorem Part.Takes.number {literal : String} {d : Number.Decimal}
    (valid : Number.Decimal.read? literal.toList = some d) :
    Part.operand.Takes [.number literal] (.number d.toFloat) := by
  intro ts rest same _
  obtain ⟨source, more, rfl, done⟩ := exists_of_map_eq_cons same
  obtain rfl := List.map_eq_nil_iff.1 done
  exact read_of_operand (.number valid)

theorem Part.Takes.var {name : String} {v : Variable} (named : Variable.ofName? name = some v) :
    Part.operand.Takes [.word name] (.var v) := by
  intro ts rest same stops
  obtain ⟨source, more, rfl, done⟩ := exists_of_map_eq_cons same
  obtain rfl := List.map_eq_nil_iff.1 done
  exact read_of_operand (.var named stops)

end Takes

theorem Derives.takes {part : Part} {tokens : List Token} (derived : Derives part tokens t) :
    part.Takes tokens t := by
  induction derived with
  | product _ inner => exact inner.sum_of_product
  | add _ _ first second => exact .sum rfl first second
  | sub _ _ first second => exact .sum rfl first second
  | signed _ inner => exact inner.product_of_signed
  | mul _ _ first second => exact .product rfl first second
  | div _ _ first second => exact .product rfl first second
  | operand _ inner => exact inner.signed_of_operand
  | neg _ inner => exact inner.neg
  | pos _ inner => exact inner.pos
  | number valid => exact .number valid
  | var named => exact .var named
  | choice named _ _ first second => exact .choice named first second
  | rounding named _ inner => exact .rounding named inner
  | group _ inner => exact inner.group

/-! ### Texts -/

theorem Derives.proper {part : Part} {tokens : List Token} (derived : Derives part tokens t)
    (c : Char) : .other c ∉ tokens := by
  induction derived with
  | _ => simp_all

theorem readTerm_eq_ok_iff {source : String} :
    readTerm source = .ok t ↔ outcome (readSum (Token.scan source.toList)) = .ok (t, []) := by
  rw [readTerm]
  constructor
  · intro read
    split at read
    case h_1 => cases read
    case h_2 whole =>
      split at read
      case h_1 =>
        cases read
        rw [whole]
        rfl
      case h_2 => cases read
  · intro read
    obtain ⟨_, whole⟩ := exists_of_outcome_eq_ok read
    rw [whole]

theorem readTerm_eq_ok_iff_derives {source : String} :
    readTerm source = .ok t ↔ ∃ ts, Token.Lexes source.toList ts ∧ Derives .sum ts t := by
  rw [readTerm_eq_ok_iff]
  constructor
  · intro read
    obtain ⟨used, whole, derived⟩ := sum_of_read read
    rw [List.append_nil] at whole
    exact ⟨_, Token.lexes_iff.2 ⟨by rw [whole], derived.proper⟩, derived⟩
  · rintro ⟨ts, lexed, derived⟩
    have scanned := (Token.lexes_iff.1 lexed).1
    have read := derived.takes _ [] scanned (by simp)
    rw [List.append_nil] at read
    exact read.trans (outcome_readMoreProducts_of_none (by simp))

theorem parse_of_derives {source : String} {ts : List Token}
    (lexed : Token.Lexes source.toList ts) (derived : Derives .sum ts t) :
    parse source = .ok ⟨source, t⟩ := by
  have read : readTerm source = .ok t := readTerm_eq_ok_iff_derives.2 ⟨ts, lexed, derived⟩
  rw [parse, read]

theorem parse_of_scan {source : String} {ts : List Token}
    (scanned : (Token.scan source.toList).map Lexeme.token = ts) (derived : Derives .sum ts t) :
    parse source = .ok ⟨source, t⟩ :=
  parse_of_derives (Token.lexes_iff.2 ⟨scanned, derived.proper⟩) derived

theorem parse_word {name : String} {v : Variable} {c : Char} {letters : List Char}
    (spelled : name.toList = c :: letters) (start : Token.isWordStart c = true)
    (more : letters.all Token.isWordChar = true) (named : Variable.ofName? name = some v) :
    parse name = .ok ⟨name, .var v⟩ := by
  have word : Token.Spelling (.word name) name.toList := by
    have written := Token.Spelling.word start (List.all_eq_true.1 more)
    rw [← spelled, String.ofList_toList] at written
    exact written
  exact parse_of_derives word.lexes (.product (.signed (.operand (.var named))))

/-- A text is an expression just if its tokens derive from the grammar with none left over, and
the expression is the term of that derivation. -/
theorem parse_eq_ok_iff {source : String} {e : Expression} :
    parse source = .ok e ↔
      e.source = source ∧ ∃ ts, Token.Lexes source.toList ts ∧ Derives .sum ts e.term := by
  rw [← readTerm_eq_ok_iff_derives, parse]
  constructor
  · intro parsed
    split at parsed
    case h_1 read =>
      cases parsed
      exact ⟨rfl, read⟩
    case h_2 => cases parsed
  · rintro ⟨rfl, read⟩
    rw [read]

end VideoScaler.Expression
