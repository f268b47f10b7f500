import Mathlib.Data.List.Infix
import Mathlib.Data.List.TakeWhile
import VideoScaler.Expression.Token

/-! How a text is taken apart into tokens.

Of all tokens that a text can start with the longest one is taken, blanks are passed over, and a
character that starts no token is the end of it. The scanner finds just these tokens.
-/

set_option autoImplicit false

namespace VideoScaler.Expression.Token

inductive Exponent : List Char → Prop where
  | mk {mark : Char} {sign digits : List Char} (marked : mark = 'e' ∨ mark = 'E')
    (signed : sign = [] ∨ sign = ['+'] ∨ sign = ['-']) (present : digits ≠ [])
    (plain : ∀ d ∈ digits, d.isDigit = true) : Exponent (mark :: (sign ++ digits))

/-- How tokens are written. A number need not be one that has a value. -/
inductive Spelling : Token → List Char → Prop where
  | number {run exponent : List Char} (present : run ≠ [])
    (plain : ∀ c ∈ run, isNumberChar c = true) (complete : exponent = [] ∨ Exponent exponent) :
    Spelling (.number (String.ofList (run ++ exponent))) (run ++ exponent)
  | word {c : Char} {rest : List Char} (start : isWordStart c = true)
    (more : ∀ d ∈ rest, isWordChar d = true) :
    Spelling (.word (String.ofList (c :: rest))) (c :: rest)
  | plus : Spelling .plus ['+']
  | minus : Spelling .minus ['-']
  | times : Spelling .times ['*']
  | slash : Spelling .slash ['/']
  | opening : Spelling .opening ['(']
  | closing : Spelling .closing [')']
  | comma : Spelling .comma [',']

/-- The tokens of a text: each is the longest one at its place, and blanks may stand anywhere
between them. -/
inductive Lexes : List Char → List Token → Prop where
  | nil : Lexes [] []
  | blank {c : Char} {s : List Char} {ts : List Token} (blank : Text.isAsciiBlank c = true)
    (rest : Lexes s ts) : Lexes (c :: s) ts
  | token {t : Token} {u s : List Char} {ts : List Token} (spelled : t.Spelling u)
    (longest : ∀ (other : Token) (v : List Char), other.Spelling v → v <+: u ++ s →
      v.length ≤ u.length)
    (rest : Lexes s ts) : Lexes (u ++ s) (t :: ts)

variable {c : Char} {s u v rest : List Char} {t other : Token}

theorem lt_toNat_of_isWordStart (start : isWordStart c = true) : 57 < c.toNat := by
  obtain letter | underscore := Bool.or_eq_true_iff.1 start
  · obtain upper | lower := Bool.or_eq_true_iff.1 letter
    · have above := (of_decide_eq_true upper).1
      exact Nat.lt_of_lt_of_le (by decide) (UInt32.le_iff_toNat_le.1 above)
    · have above := of_decide_eq_true (Bool.and_eq_true_iff.1 lower).1
      exact Nat.lt_of_lt_of_le (by decide) (UInt32.le_iff_toNat_le.1 above)
  · obtain rfl := of_decide_eq_true underscore
    decide

theorem isNumberChar_le (digit : isNumberChar c = true) : c.toNat ≤ 57 := by
  obtain figure | point := Bool.or_eq_true_iff.1 digit
  · have below := of_decide_eq_true (Bool.and_eq_true_iff.1 figure).2
    exact UInt32.le_iff_toNat_le.1 below
  · obtain rfl := of_decide_eq_true point
    decide

theorem isAsciiBlank_le (blank : Text.isAsciiBlank c = true) : c.toNat ≤ 32 := by
  simp only [Text.isAsciiBlank, Bool.or_eq_true, beq_iff_eq] at blank
  omega

theorem le_of_isNumberChar (digit : isNumberChar c = true) : 46 ≤ c.toNat := by
  obtain figure | point := Bool.or_eq_true_iff.1 digit
  · have above := of_decide_eq_true (Bool.and_eq_true_iff.1 figure).1
    exact Nat.le_trans (by decide) (UInt32.le_iff_toNat_le.1 above)
  · obtain rfl := of_decide_eq_true point
    decide

theorem not_isNumberChar_of_isWordStart (start : isWordStart c = true) :
    isNumberChar c = false := by
  apply Bool.eq_false_iff.2
  intro digit
  exact Nat.not_le.2 (lt_toNat_of_isWordStart start) (isNumberChar_le digit)

theorem not_isNumberChar_of_mark (marked : c = 'e' ∨ c = 'E') : isNumberChar c = false := by
  obtain rfl | rfl := marked <;> decide

theorem length_le_takeWhile {p : Char → Bool} (inside : ∀ d ∈ u, p d = true) (start : u <+: s) :
    u.length ≤ (s.takeWhile p).length := by
  obtain ⟨rest, rfl⟩ := start
  rw [List.takeWhile_append_of_pos inside, List.length_append]
  exact Nat.le_add_right ..

theorem exponentOf_spec (s : List Char) :
    exponentOf s <+: s ∧ (exponentOf s = [] ∨ Exponent (exponentOf s)) := by
  have nothing : ([] : List Char) <+: s ∧ (([] : List Char) = [] ∨ Exponent []) :=
    ⟨List.nil_prefix, .inl rfl⟩
  have plain (digits : List Char) : ∀ d ∈ digits.takeWhile Char.isDigit, d.isDigit = true :=
    fun d member => List.mem_takeWhile_imp member
  unfold exponentOf
  split
  case h_2 => exact nothing
  case h_1 mark rest =>
    split
    case isFalse => exact nothing
    case isTrue marked =>
      split
      case h_2 => exact nothing
      case h_1 sign digits =>
        split
        case isTrue signed =>
          split
          case h_1 => exact nothing
          case h_2 present =>
            have complete : Exponent (mark :: ([sign] ++ digits.takeWhile Char.isDigit)) := by
              refine .mk (by simpa using marked) (.inr ?_) present (plain digits)
              simpa using signed
            refine ⟨?_, .inr complete⟩
            simpa only [List.prefix_cons_inj] using List.takeWhile_prefix (l := digits) Char.isDigit
        case isFalse =>
          split
          case h_1 => exact nothing
          case h_2 present =>
            have complete : Exponent (mark :: ([] ++ (sign :: digits).takeWhile Char.isDigit)) :=
              .mk (by simpa using marked) (.inl rfl) present (plain _)
            refine ⟨?_, .inr complete⟩
            simpa only [List.prefix_cons_inj] using List.takeWhile_prefix (l := sign :: digits) Char.isDigit

theorem Exponent.length_le {e : List Char} (complete : Exponent e) (start : e <+: s) :
    e.length ≤ (exponentOf s).length := by
  obtain ⟨rest, rfl⟩ := start
  obtain @⟨mark, sign, digits, marked, signed, present, plain⟩ := complete
  have taken : (digits ++ rest).takeWhile Char.isDigit = digits ++ rest.takeWhile Char.isDigit :=
    List.takeWhile_append_of_pos plain
  obtain ⟨d, ds, rfl⟩ := List.exists_cons_of_ne_nil present
  have digit : d.isDigit = true := plain d List.mem_cons_self
  rw [List.cons_append, List.cons_append] at taken
  rcases signed with rfl | rfl | rfl
  · have unsigned : ¬(d = '+' ∨ d = '-') := by
      rintro (rfl | rfl) <;> cases digit
    simp [exponentOf, marked, unsigned, taken]
  · simp [exponentOf, marked, taken]
  · simp [exponentOf, marked, taken]

theorem literalOf_isPrefix (s : List Char) : literalOf s <+: s := by
  obtain ⟨rest, split⟩ := (exponentOf_spec (s.dropWhile isNumberChar)).1
  refine ⟨rest, ?_⟩
  rw [literalOf, List.append_assoc, split, List.takeWhile_append_dropWhile]

theorem literalOf_cons_ne_nil (digit : isNumberChar c = true) : literalOf (c :: rest) ≠ [] := by
  rw [literalOf, List.takeWhile_cons_of_pos digit]
  exact List.cons_ne_nil _ _

theorem spelling_literalOf (digit : isNumberChar c = true) :
    Spelling (.number (String.ofList (literalOf (c :: rest)))) (literalOf (c :: rest)) := by
  refine .number ?_ (fun d member => List.mem_takeWhile_imp member) (exponentOf_spec _).2
  rw [List.takeWhile_cons_of_pos digit]
  exact List.cons_ne_nil _ _

theorem length_le_literalOf {run exponent : List Char}
    (plain : ∀ d ∈ run, isNumberChar d = true) (complete : exponent = [] ∨ Exponent exponent)
    (start : run ++ exponent <+: s) : (run ++ exponent).length ≤ (literalOf s).length := by
  obtain rfl | complete := complete
  · rw [List.append_nil] at start ⊢
    rw [literalOf, List.length_append]
    exact Nat.le_trans (length_le_takeWhile plain start) (Nat.le_add_right ..)
  · obtain ⟨rest, rfl⟩ := start
    have longest := complete.length_le (List.prefix_append exponent rest)
    obtain ⟨marked, signed, present, digits⟩ := complete
    -- The mark ends the run, so the literal has the same run and an exponent as long.
    have outside := not_isNumberChar_of_mark marked
    rw [literalOf, List.append_assoc, List.takeWhile_append_of_pos plain,
      List.dropWhile_append_of_pos plain, List.cons_append,
      List.takeWhile_cons_of_neg (by simp [outside]),
      List.dropWhile_cons_of_neg (by simp [outside])]
    rw [List.append_nil, List.length_append, List.length_append]
    exact Nat.add_le_add_left longest _

theorem first_number (digit : isNumberChar c = true) :
    first c rest =
      (.number (String.ofList (literalOf (c :: rest))), (literalOf (c :: rest)).length - 1) := by
  unfold first
  rw [if_pos digit]

theorem first_word (start : isWordStart c = true) :
    first c rest =
      (.word (String.ofList (c :: rest.takeWhile isWordChar)),
        (rest.takeWhile isWordChar).length) := by
  unfold first
  rw [if_neg (by simp [not_isNumberChar_of_isWordStart start]), if_pos start]
  simp only [List.length_cons, Nat.add_sub_cancel]

theorem cons_take_of_isPrefix (start : u <+: c :: rest) (present : u ≠ []) :
    c :: rest.take (u.length - 1) = u := by
  obtain ⟨d, ds, rfl⟩ := List.exists_cons_of_ne_nil present
  obtain ⟨rfl, inner⟩ := List.cons_prefix_cons.1 start
  rw [List.length_cons, Nat.add_sub_cancel, ← List.prefix_iff_eq_take.1 inner]

theorem first_le (c : Char) (rest : List Char) : (first c rest).2 ≤ rest.length := by
  cases digit : isNumberChar c with
  | true =>
    rw [first_number digit]
    have inside := (literalOf_isPrefix (c :: rest)).length_le
    exact Nat.sub_le_of_le_add inside
  | false =>
    cases start : isWordStart c with
    | true =>
      rw [first_word start]
      exact (List.takeWhile_prefix _).length_le
    | false =>
      unfold first
      rw [if_neg (by simp [digit]), if_neg (by simp [start])]
      exact Nat.zero_le _

theorem first_spec (c : Char) (rest : List Char) :
    (∃ d, (first c rest).1 = .other d) ∨
      (first c rest).1.Spelling (c :: rest.take (first c rest).2) := by
  cases digit : isNumberChar c with
  | true =>
    right
    rw [first_number digit]
    dsimp only
    rw [cons_take_of_isPrefix (literalOf_isPrefix _) (literalOf_cons_ne_nil digit)]
    exact spelling_literalOf digit
  | false =>
    cases start : isWordStart c with
    | true =>
      right
      rw [first_word start]
      dsimp only
      rw [← List.prefix_iff_eq_take.1 (List.takeWhile_prefix _)]
      exact .word start fun d member => List.mem_takeWhile_imp member
    | false =>
      unfold first
      rw [if_neg (by simp [digit]), if_neg (by simp [start])]
      split
      case h_8 => exact .inl ⟨_, rfl⟩
      all_goals exact .inr (by constructor)

theorem Spelling.ne_nil (spelled : t.Spelling u) : u ≠ [] := by
  cases spelled with
  | number present _ _ => exact fun empty => present (List.append_eq_nil_iff.1 empty).1
  | _ => exact List.cons_ne_nil _ _

theorem Spelling.not_blank (spelled : t.Spelling (c :: u)) : Text.isAsciiBlank c = false := by
  have visible (past : 32 < c.toNat) : Text.isAsciiBlank c = false := by
    apply Bool.eq_false_iff.2
    intro blank
    exact Nat.not_le.2 past (isAsciiBlank_le blank)
  generalize text : c :: u = v at spelled
  cases spelled with
  | @number run exponent present plain complete =>
    obtain ⟨d, ds, rfl⟩ := List.exists_cons_of_ne_nil present
    obtain ⟨rfl, -⟩ := List.cons.inj text
    exact visible (Nat.lt_of_lt_of_le (by decide) (le_of_isNumberChar (plain c List.mem_cons_self)))
  | word start _ =>
    obtain ⟨rfl, -⟩ := List.cons.inj text
    exact visible (Nat.lt_trans (by decide) (lt_toNat_of_isWordStart start))
  | _ =>
    obtain ⟨rfl, -⟩ := List.cons.inj text
    decide

theorem Spelling.length_le (spelled : t.Spelling v) (start : v <+: c :: rest) :
    (∀ d, (first c rest).1 ≠ .other d) ∧ v.length ≤ (first c rest).2 + 1 := by
  cases spelled with
  | @number run exponent present plain complete =>
    have longest := length_le_literalOf plain complete start
    obtain ⟨d, ds, rfl⟩ := List.exists_cons_of_ne_nil present
    obtain ⟨rfl, -⟩ := List.cons_prefix_cons.1 start
    rw [first_number (plain d List.mem_cons_self)]
    refine ⟨fun _ same => Token.noConfusion same, ?_⟩
    dsimp only
    omega
  | word begun more =>
    obtain ⟨rfl, inner⟩ := List.cons_prefix_cons.1 start
    rw [first_word begun]
    exact ⟨fun _ same => Token.noConfusion same, Nat.succ_le_succ (length_le_takeWhile more inner)⟩
  | _ =>
    obtain ⟨rfl, -⟩ := List.cons_prefix_cons.1 start
    exact ⟨fun _ same => Token.noConfusion same, Nat.le_refl _⟩

theorem Spelling.first_eq (spelled : t.Spelling (c :: u)) : first c u = (t, u.length) := by
  generalize text : c :: u = v at spelled
  cases spelled with
  | @number run exponent present plain complete =>
    have longest := length_le_literalOf plain complete (List.prefix_refl _)
    rw [← text] at longest
    have whole : literalOf (c :: u) = c :: u := (literalOf_isPrefix _).eq_of_length_le longest
    obtain ⟨d, ds, rfl⟩ := List.exists_cons_of_ne_nil present
    obtain ⟨rfl, -⟩ := List.cons.inj text
    rw [first_number (plain c List.mem_cons_self), whole, ← text, List.length_cons,
      Nat.add_sub_cancel]
  | word begun more =>
    obtain ⟨rfl, rfl⟩ := List.cons.inj text
    rw [first_word begun, List.takeWhile_eq_self_iff.2 more]
  | _ =>
    obtain ⟨rfl, rfl⟩ := List.cons.inj text
    rfl

/-- A text is the spelling of at most one token. -/
theorem Spelling.unique (spelled : t.Spelling u) (again : other.Spelling u) : t = other := by
  obtain ⟨c, rest, rfl⟩ := List.exists_cons_of_ne_nil spelled.ne_nil
  exact congrArg Prod.fst (spelled.first_eq.symm.trans again.first_eq)

/-- The longest token at the start of a text is the one that is taken. -/
theorem Spelling.first_append (spelled : t.Spelling (c :: u))
    (longest : ∀ (other : Token) (v : List Char), other.Spelling v → v <+: c :: u ++ s →
      v.length ≤ (c :: u).length) :
    first c (u ++ s) = (t, u.length) := by
  have start : c :: u <+: c :: (u ++ s) := List.prefix_append (c :: u) s
  obtain ⟨proper, least⟩ := spelled.length_le start
  rw [List.length_cons] at least
  obtain ⟨d, wrong⟩ | taken := first_spec c (u ++ s)
  · exact absurd wrong (proper d)
  · have most := longest _ _ taken (List.prefix_cons_inj c |>.2 (List.take_prefix _ _))
    have inside := first_le c (u ++ s)
    have short : (first c (u ++ s)).2 = u.length := by
      simp only [List.length_cons, List.length_take, List.length_append] at least most inside
      omega
    rw [short, List.take_left] at taken
    exact Prod.ext (taken.unique spelled) short

theorem scan_cons {n : Nat} (visible : Text.isAsciiBlank c = false) (begun : first c rest = (t, n)) :
    scan (c :: rest) = ⟨t, c :: rest⟩ :: scan (rest.drop n) := by
  rw [scan, if_neg (by simp [visible]), begun]

/-- Scanning finds the tokens of a text, and a text has tokens unless a wrong character is among
what is found. -/
theorem lexes_iff {ts : List Token} :
    Lexes s ts ↔ (scan s).map Lexeme.token = ts ∧ ∀ c, .other c ∉ ts := by
  constructor
  · intro lexed
    induction lexed with
    | nil =>
      rw [scan]
      exact ⟨rfl, fun _ => List.not_mem_nil⟩
    | blank blank _ ih =>
      rw [scan, if_pos blank]
      exact ih
    | @token t u s ts spelled longest _ ih =>
      obtain ⟨c, u, rfl⟩ := List.exists_cons_of_ne_nil spelled.ne_nil
      have begun := spelled.first_append longest
      have start : c :: u <+: c :: (u ++ s) := List.prefix_append (c :: u) s
      have proper := (spelled.length_le start).1
      rw [begun] at proper
      rw [List.cons_append, scan, if_neg (by simp [spelled.not_blank])]
      simp only [begun, List.drop_left, List.map_cons, ih.1, List.mem_cons, not_or, true_and]
      exact fun d => ⟨(proper d).symm, ih.2 d⟩
  · rintro ⟨rfl, proper⟩
    induction s using scan.induct with
    | case1 =>
      rw [scan]
      exact .nil
    | case2 c rest blank ih =>
      rw [scan, if_pos blank] at proper ⊢
      exact .blank blank (ih proper)
    | case3 c rest visible token more begun ih =>
      rw [scan, if_neg visible] at proper ⊢
      simp only [begun, List.map_cons, List.mem_cons, not_or] at proper ⊢
      have taken : token.Spelling (c :: rest.take more) := by
        have found := first_spec c rest
        rw [begun] at found
        rcases found with ⟨d, wrong⟩ | spelled
        · exact absurd wrong.symm (proper d).1
        · exact spelled
      have split : c :: rest = c :: rest.take more ++ rest.drop more := by
        rw [List.cons_append, List.take_append_drop]
      rw [split]
      refine .token taken (fun other v spelled start => ?_) (ih fun d => (proper d).2)
      rw [← split] at start
      have most := (spelled.length_le start).2
      rw [begun] at most
      have room := start.length_le
      simp only [List.length_cons, List.length_take] at most room ⊢
      omega

theorem Spelling.lexes (spelled : t.Spelling u) : Lexes u [t] := by
  have whole : Lexes (u ++ []) [t] := by
    refine .token spelled (fun other v _ start => ?_) .nil
    rw [List.append_nil] at start
    exact start.length_le
  rw [List.append_nil] at whole
  exact whole

end VideoScaler.Expression.Token
