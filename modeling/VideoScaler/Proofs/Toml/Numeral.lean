import VideoScaler.Toml.Scalar

/-! Whole numbers that are written are read back.

The digits of a number stand alone on what is left of their line, so that nothing else that starts
with digits can be meant: no date, no time and no real number.
-/

set_option autoImplicit false

namespace VideoScaler.Toml

/-- The digits of a number, without zeros that could be left out. -/
structure Numeral (n : Nat) (digits : List Char) : Prop where
  nonempty : digits ≠ []
  all_digits : ∀ c ∈ digits, c.isDigit = true
  value_eq : Number.digitsValue digits = n
  leading : ∀ {rest}, digits = '0' :: rest → rest = []

theorem toList_toString (n : Nat) : (toString (n : Int)).toList = Nat.toDigits 10 n := by
  show (Nat.repr n).toList = _
  rw [Nat.repr_eq_ofList_toDigits, String.toList_ofList]

theorem digitsValue_toDigits (n : Nat) : Number.digitsValue (Nat.toDigits 10 n) = n := by
  have value : Number.digitsValue (Nat.toDigits 10 n)
      = Nat.ofDigitChars 10 (Nat.toDigits 10 n) 0 := by
    simp only [Number.digitsValue, Nat.ofDigitChars, Nat.mul_comm 10]
    rfl
  rw [value, Nat.ofDigitChars_ten_toDigits]

theorem head?_toDigits {n : Nat} (positive : n ≠ 0) : (Nat.toDigits 10 n).head? ≠ some '0' := by
  induction n using Nat.strongRecOn with
  | ind n ih =>
    by_cases small : n < 10
    · have digit : ∀ d < 10, d ≠ 0 → Nat.digitChar d ≠ '0' := by decide
      rw [Nat.toDigits_of_lt_base small, List.head?_cons]
      exact fun zero => digit n small positive (Option.some.inj zero)
    · have before := ih (n / 10) (by omega) (by omega)
      rwa [Nat.toDigits_of_base_le (by decide) (Nat.not_lt.1 small), List.head?_append,
        List.head?_eq_some_head Nat.toDigits_ne_nil, Option.some_or,
        ← List.head?_eq_some_head Nat.toDigits_ne_nil]

theorem numeral_toDigits (n : Nat) : Numeral n (Nat.toDigits 10 n) where
  nonempty := Nat.toDigits_ne_nil
  all_digits _ member := Nat.isDigit_of_mem_toDigits (by decide) (by decide) member
  value_eq := digitsValue_toDigits n
  leading {rest} same := by
    by_cases zero : n = 0
    · subst zero
      cases same
      rfl
    · exact absurd (by rw [same]; rfl) (head?_toDigits zero)

theorem digits_of_afterDate? {s t : List Char} (read : afterDate? s = some t) :
    ∃ a b c d rest, s = a :: b :: c :: d :: '-' :: rest ∧ [a, b, c, d].all Char.isDigit = true := by
  unfold afterDate? at read
  split at read
  case h_1 a b c d rest =>
    split at read
    case isTrue four => exact ⟨a, b, c, d, rest, rfl, four⟩
    case isFalse => cases read
  case h_2 => cases read

theorem readSign_digit {c : Char} (digit : c.isDigit = true) (s : List Char) :
    readSign (c :: s) = ([], c :: s) := by
  have plus : c ≠ '+' := ne_of_class digit (by decide)
  have minus : c ≠ '-' := ne_of_class digit (by decide)
  simp [readSign, plus, minus]

section
variable {digits : List Char} (all : ∀ c ∈ digits, c.isDigit = true) (rest : List Char)
include all

theorem readDigits?_line (nonempty : digits ≠ []) :
    readDigits? Char.isDigit (digits ++ '\n' :: rest) = some (digits, '\n' :: rest) := by
  induction digits with
  | nil => exact absurd rfl nonempty
  | cons c digits ih =>
    have first : c.isDigit = true := all c List.mem_cons_self
    cases digits with
    | nil => simp [readDigits?, first]
    | cons d digits =>
      have second : d.isDigit = true := all d (List.mem_cons_of_mem _ List.mem_cons_self)
      have later := ih (fun x member => all x (List.mem_cons_of_mem _ member)) (by simp)
      have mark : d ≠ '_' := ne_of_class second (by decide)
      rw [List.cons_append] at later
      simp [readDigits?, first, second, later, push]

/-- Digits are no date: four digits of one are followed by a dash. -/
theorem afterDate?_line : afterDate? (digits ++ '\n' :: rest) = none := by
  refine Option.eq_none_iff_forall_ne_some.2 fun t read => ?_
  obtain ⟨a, b, c, d, behind, same, four⟩ := digits_of_afterDate? read
  match digits, all, same with
  | [], _, same | [_], _, same | [_, _], _, same | [_, _, _], _, same =>
    cases same
    simp at four
  | [_, _, _, _], _, same => simp at same
  | _ :: _ :: _ :: _ :: e :: _, all, same =>
    have other : e ≠ '-' := ne_of_class (all e (by simp)) (by decide)
    simp [other] at same

/-- Digits are no time of day: two digits of one are followed by a colon. -/
theorem afterTime?_line : afterTime? (digits ++ '\n' :: rest) = none := by
  match digits, all with
  | [], _ => cases rest <;> simp [afterTime?, afterMinutes?, readTwo?]
  | [a], _ | [a, b], _ => simp [afterTime?, afterMinutes?, readTwo?]
  | a :: b :: c :: _, all =>
    have other : c ≠ ':' := ne_of_class (all c (by simp)) (by decide)
    simp [afterTime?, afterMinutes?, readTwo?, other]

end

section
variable {n : Nat} {digits : List Char} (numeral : Numeral n digits) (rest : List Char)
include numeral

theorem Numeral.cons :
    ∃ c others, digits = c :: others ∧ c.isDigit = true ∧ (c = '0' → others = []) := by
  cases shape : digits with
  | nil => exact absurd shape numeral.nonempty
  | cons c others =>
    refine ⟨c, others, rfl, numeral.all_digits c (by rw [shape]; exact List.mem_cons_self), ?_⟩
    rintro rfl
    exact numeral.leading shape

theorem Numeral.readDecimal? :
    readDecimal? (digits ++ '\n' :: rest) = some (digits, '\n' :: rest) := by
  have whole := readDigits?_line numeral.all_digits rest numeral.nonempty
  obtain ⟨c, others, rfl, digit, zero⟩ := numeral.cons
  rw [List.cons_append] at whole ⊢
  rw [Toml.readDecimal?, readSign_digit digit]
  by_cases leading : c = '0'
  · obtain rfl := zero leading
    subst leading
    rfl
  · simp [leading, whole]

theorem Numeral.readReal? : readReal? (digits ++ '\n' :: rest) = none := by
  have literal : readRealLiteral? (digits ++ '\n' :: rest) = none := by
    simp [readRealLiteral?, numeral.readDecimal? rest, readFraction?, readExponent?]
  obtain ⟨c, others, rfl, digit, -⟩ := numeral.cons
  have infinite : c ≠ 'i' := ne_of_class digit (by decide)
  have undefined : c ≠ 'n' := ne_of_class digit (by decide)
  have special : readSpecial? (c :: others ++ '\n' :: rest) = none := by
    rw [List.cons_append, readSpecial?, readSign_digit digit]
    simp [infinite, undefined]
  rw [Toml.readReal?, literal]
  exact special

theorem Numeral.readSigned? : Number.readSigned? digits = some (n : Int) := by
  have value := numeral.value_eq
  have all : digits.all Char.isDigit = true := List.all_eq_true.2 numeral.all_digits
  obtain ⟨c, others, rfl, digit, -⟩ := numeral.cons
  have plus : c ≠ '+' := ne_of_class digit (by decide)
  have minus : c ≠ '-' := ne_of_class digit (by decide)
  simp [Number.readSigned?, plus, minus, Number.readDigits?, all, value]

theorem Numeral.readInteger? (bound : n ≤ 9223372036854775807) :
    readInteger? (digits ++ '\n' :: rest) = some (.integer n, '\n' :: rest) := by
  have whole := numeral.readDecimal? rest
  have fits : integer? (n : Int) = some (.integer n) := by
    rw [integer?, if_pos (by omega)]
  have value := numeral.readSigned?
  obtain ⟨c, others, rfl, digit, zero⟩ := numeral.cons
  -- No letter for another base follows: a zero stands alone.
  have decimal : Toml.readInteger? (c :: others ++ '\n' :: rest)
      = (Toml.readDecimal? (c :: others ++ '\n' :: rest)).bind fun read =>
        (Number.readSigned? read.1).bind fun value =>
          (integer? value).bind fun number => some (number, read.2) := by
    by_cases leading : c = '0'
    · obtain rfl := zero leading
      subst leading
      rfl
    · simp [Toml.readInteger?, leading]
  rw [decimal, whole]
  simp [value, fits]

theorem Numeral.readScalar? (bound : n ≤ 9223372036854775807) :
    readScalar? (digits ++ '\n' :: rest) = some (.integer n, '\n' :: rest) := by
  have moment : readMoment? (digits ++ '\n' :: rest) = none := by
    simp [readMoment?, afterDate?_line numeral.all_digits, afterTime?_line numeral.all_digits]
  have number : (readMoment? (digits ++ '\n' :: rest) <|> Toml.readReal? (digits ++ '\n' :: rest)
      <|> Toml.readInteger? (digits ++ '\n' :: rest)) = some (.integer n, '\n' :: rest) := by
    rw [moment, numeral.readReal?, numeral.readInteger? rest bound]
    rfl
  obtain ⟨c, others, rfl, digit, -⟩ := numeral.cons
  have yes : c ≠ 't' := ne_of_class digit (by decide)
  have no : c ≠ 'f' := ne_of_class digit (by decide)
  rw [← number, List.cons_append, Toml.readScalar?.eq_def]
  simp [yes, no]

end

end VideoScaler.Toml
