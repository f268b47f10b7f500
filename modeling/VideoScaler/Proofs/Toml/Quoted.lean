import VideoScaler.Toml.Text

/-! Texts that are written are read back.

No character ends a text that it is written in: quotes and backslashes are escaped, and so is
whatever may not stand for itself. One character is read back at a time, whatever comes after it,
and a whole text by induction on its characters.
-/

set_option autoImplicit false

namespace VideoScaler.Toml

/-- The ways a character is written. A line feed stands for itself only over several lines. -/
inductive Written (multiline : Bool) (c : Char) : List Char → Prop where
  | plain (plain : isBasicPlain c = true) : Written multiline c [c]
  | feed (several : multiline = true) (same : c = '\n') : Written multiline c ['\n']
  | short {e : Char} (known : shortEscape? e = some c) : Written multiline c ['\\', e]
  | number (special : isPlain c = false) :
    Written multiline c ['\\', 'u', '0', '0', hexDigit (c.toNat / 16), hexDigit (c.toNat % 16)]

theorem written_escape (multiline : Bool) (c : Char) :
    Written multiline c (escape multiline c) := by
  unfold escape
  split
  case isTrue same => subst same; exact .short rfl
  split
  case isTrue same => subst same; exact .short rfl
  split
  case isTrue same =>
    split
    case isTrue several => exact .feed several same
    case isFalse => subst same; exact .short rfl
  split
  case isTrue same => subst same; exact .short rfl
  split
  case isTrue same => subst same; exact .short rfl
  split
  case isTrue same => subst same; exact .short rfl
  split
  case isTrue same => subst same; exact .short rfl
  case isFalse quote backslash =>
    split
    case isTrue plain => exact .plain (by simp [isBasicPlain, plain, quote, backslash])
    case isFalse special => exact .number (by simpa using special)

theorem toNat_lt_of_not_isPlain {c : Char} (special : isPlain c = false) : c.toNat < 128 := by
  simp only [isPlain, Bool.or_eq_false_iff, Bool.and_eq_false_iff, decide_eq_false_iff_not]
    at special
  omega

theorem scalar?_hexDigit : ∀ n < 128,
    scalar? ['0', '0', hexDigit (n / 16), hexDigit (n % 16)] = some (Char.ofNat n) := by
  decide

theorem scalar?_special {c : Char} (special : isPlain c = false) :
    scalar? ['0', '0', hexDigit (c.toNat / 16), hexDigit (c.toNat % 16)] = some c := by
  rw [scalar?_hexDigit c.toNat (toNat_lt_of_not_isPlain special), Char.ofNat_toNat]

variable {c : Char}

theorem ne_of_isBasicPlain (plain : isBasicPlain c = true) : c ≠ '"' ∧ c ≠ '\\' ∧ c ≠ '\r' :=
  ⟨ne_of_class plain (by decide), ne_of_class plain (by decide), ne_of_class plain (by decide)⟩

theorem Written.readBasic_eq {s : List Char} (written : Written false c s) (rest : List Char) :
    readBasic (s ++ rest) = (readBasic rest).map (push c) := by
  cases written with
  | plain plain =>
    obtain ⟨quote, backslash, -⟩ := ne_of_isBasicPlain plain
    rw [List.singleton_append, readBasic.eq_def]
    split <;> simp_all
  | feed several => cases several
  | short known =>
    unfold shortEscape? at known
    split at known <;> cases known <;> rfl
  | number special =>
    show (scalar? _ >>= fun x => (readBasic rest).map (push x)) = _
    rw [scalar?_special special]
    rfl

theorem Written.readBasicLines_eq {s : List Char} (written : Written true c s)
    (rest : List Char) :
    readBasicLines false (s ++ rest) = (readBasicLines false rest).map (push c) := by
  cases written with
  | plain plain =>
    obtain ⟨quote, backslash, noReturn⟩ := ne_of_isBasicPlain plain
    rw [List.singleton_append, readBasicLines.eq_def]
    split <;> simp_all
  | feed _ same =>
    subst same
    rfl
  | short known =>
    unfold shortEscape? at known
    split at known <;> cases known <;> rfl
  | number special =>
    show (scalar? _ >>= fun x => (readBasicLines false rest).map (push x)) = _
    rw [scalar?_special special]
    rfl

theorem readBasic_escaped (s rest : List Char) :
    readBasic (s.flatMap (escape false) ++ '"' :: rest) = some (s, rest) := by
  induction s with
  | nil => rfl
  | cons c s ih =>
    rw [List.flatMap_cons, List.append_assoc, (written_escape false c).readBasic_eq, ih]
    rfl

theorem readBasicLines_closing (other : c ≠ '"') (rest : List Char) :
    readBasicLines false ('"' :: '"' :: '"' :: c :: rest) = some ([], c :: rest) := by
  simp [readBasicLines, other]

theorem readBasicLines_escaped (s : List Char) (other : c ≠ '"') (rest : List Char) :
    readBasicLines false (s.flatMap (escape true) ++ '"' :: '"' :: '"' :: c :: rest)
      = some (s, c :: rest) := by
  induction s with
  | nil => exact readBasicLines_closing other rest
  | cons d s ih =>
    rw [List.flatMap_cons, List.append_assoc, (written_escape true d).readBasicLines_eq, ih]
    rfl

/-- A text on one line does not start like one over several lines. -/
theorem readQuoted?_basic (s : List Char) (other : c ≠ '"') (rest : List Char) :
    readQuoted? ('"' :: (s.flatMap (escape false) ++ '"' :: c :: rest))
      = readBasic (s.flatMap (escape false) ++ '"' :: c :: rest) := by
  cases s with
  | nil => simp [readQuoted?, other]
  | cons d s =>
    rw [List.flatMap_cons, List.append_assoc]
    generalize escape false d = first, written_escape false d = written
    cases written with
    | plain plain => simp [readQuoted?, (ne_of_isBasicPlain plain).1]
    | feed several => cases several
    | short | number => rfl

theorem readQuoted?_writeText (s : List Char) (other : c ≠ '"') (rest : List Char) :
    readQuoted? (writeText s ++ c :: rest) = some (s, c :: rest) := by
  unfold writeText
  split
  · simp only [List.append_assoc, List.cons_append, List.nil_append]
    exact readBasicLines_escaped s other rest
  · simp only [List.append_assoc, List.cons_append, List.nil_append]
    rw [readQuoted?_basic s other]
    exact readBasic_escaped s (c :: rest)

end VideoScaler.Toml
