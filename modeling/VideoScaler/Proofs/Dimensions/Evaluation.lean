import VideoScaler.Proofs.Dimensions.Variables

/-! Sizes that refer to each other.

The width is evaluated before and after the height, so each can refer to the other one. Unless they
do so at once the values are the one solution of both equations, wherever the evaluation started.
What the height sees is the value of the width expression, not the width that is made of it.
-/

set_option autoImplicit false

namespace VideoScaler.Dimensions

open Expression (Vars)

section
variable {e : Expression}

theorem eval_outW (unused : e.uses .outW = false) (vars : Vars) (x : Float) :
    e.eval { vars with outW := x } = e.eval vars := by
  apply Expression.Term.eval_congr
  intro v occurs
  cases v with
  | outW => exact absurd (occurs.symm.trans unused) (by decide)
  | _ => rfl

theorem eval_outH (unused : e.uses .outH = false) (vars : Vars) (y : Float) :
    e.eval { vars with outH := y } = e.eval vars := by
  apply Expression.Term.eval_congr
  intro v occurs
  cases v with
  | outH => exact absurd (occurs.symm.trans unused) (by decide)
  | _ => rfl

end

variable {wide tall : Expression}

theorem evaluate_of_plain_width (columns : wide.uses .outW = false) (rows : wide.uses .outH = false)
    (vars : Vars) :
    evaluate wide tall vars = (wide.eval vars, tall.eval { vars with outW := wide.eval vars }) := by
  unfold evaluate
  dsimp only
  rw [eval_outH rows { vars with outW := wide.eval vars }, eval_outW columns]

theorem evaluate_of_plain_height (columns : wide.uses .outW = false)
    (rows : tall.uses .outW = false) (vars : Vars) :
    evaluate wide tall vars = (wide.eval { vars with outH := tall.eval vars }, tall.eval vars) := by
  unfold evaluate
  dsimp only
  rw [eval_outW rows]
  exact Prod.ext (eval_outW columns { vars with outH := tall.eval vars } _) rfl

/-- Unless both sizes refer to each other, or one to itself, what they come to is the only solution
of their equations. It does not depend on the sizes that the evaluation starts from. -/
theorem evaluate_eq_iff (columns : wide.uses .outW = false) (rows : tall.uses .outH = false)
    (apart : ¬(wide.uses .outH = true ∧ tall.uses .outW = true)) (vars : Vars) (x y : Float) :
    evaluate wide tall vars = (x, y) ↔
      wide.eval { vars with outW := x, outH := y } = x ∧
        tall.eval { vars with outW := x, outH := y } = y := by
  have width : wide.eval { vars with outW := x, outH := y } = wide.eval { vars with outH := y } :=
    eval_outW columns { vars with outH := y } x
  have height : tall.eval { vars with outW := x, outH := y } = tall.eval { vars with outW := x } :=
    eval_outH rows { vars with outW := x } y
  rw [width, height]
  cases later : wide.uses .outH with
  | false =>
    rw [evaluate_of_plain_width columns later, eval_outH later vars y, Prod.mk.injEq]
    constructor
    · rintro ⟨rfl, rfl⟩
      exact ⟨rfl, rfl⟩
    · rintro ⟨rfl, rfl⟩
      exact ⟨rfl, rfl⟩
  | true =>
    have first : tall.uses .outW = false := by
      rw [← Bool.not_eq_true]
      exact fun refers => apart ⟨later, refers⟩
    rw [evaluate_of_plain_height columns first, eval_outW first vars x, Prod.mk.injEq]
    constructor
    · rintro ⟨rfl, rfl⟩
      exact ⟨rfl, rfl⟩
    · rintro ⟨rfl, rfl⟩
      exact ⟨rfl, rfl⟩

/-- The width is the height times the shape of the input, both before and after the height is
known. -/
theorem evaluate_three_by_two :
    (⟨"oh*a", .binary .mul (.var .outH) (.var .a)⟩ : Expression).uses .outW = false ∧
      (⟨"ih", .var .inH⟩ : Expression).uses .outH = false ∧
      evaluate ⟨"oh*a", .binary .mul (.var .outH) (.var .a)⟩ ⟨"ih", .var .inH⟩
        (inputVars ⟨3, 2, .unset, .nv12, .nv12⟩) = (3, 2) ∧
      (2 : Float) * ((3 : UInt32).toFloat / (2 : UInt32).toFloat) = 3 ∧
      (2 : UInt32).toFloat = 2 := by
  have solved : evaluate ⟨"oh*a", .binary .mul (.var .outH) (.var .a)⟩ ⟨"ih", .var .inH⟩
      (inputVars ⟨3, 2, .unset, .nv12, .nv12⟩) = (3, 2) := by decide +kernel
  exact ⟨rfl, rfl, solved, (evaluate_eq_iff rfl rfl
    (by simp [Expression.uses, Expression.Term.uses]) _ _ _).1 solved⟩

section
variable {columns rows : String} {input : Input} {w h asked : Int64}

/-- The height sees the value that the width expression has. This is the width itself where the
value is a number that needs neither to be truncated nor to be replaced. -/
theorem height_sees_value (parsedW : Expression.parse columns = .ok wide)
    (parsedH : Expression.parse rows = .ok tall) (plainW : wide.uses .outW = false)
    (plainH : wide.uses .outH = false) (rowsPlain : tall.uses .outH = false)
    (truncated : toInteger wide (wide.eval (inputVars input)) = .ok asked) (closed : 0 ≤ asked)
    (resolved : requested columns rows input = .ok (w, h)) (y : Float) :
    let seeing (x : Float) :=
      toInteger tall (tall.eval { inputVars input with outW := x, outH := y })
    (∀ n, seeing (wide.eval (inputVars input)) = .ok n → 0 < n → h = n) ∧
      (wide.eval (inputVars input) = Float.ofInt w.toInt →
        ∀ n, seeing (Float.ofInt w.toInt) = .ok n → 0 < n → h = n) := by
  intro seeing
  have sees : ∀ n, seeing (wide.eval (inputVars input)) = .ok n → 0 < n → h = n := by
    intro n value positive
    have height : toInteger tall (evaluate wide tall (inputVars input)).2 = .ok n := by
      rw [evaluate_of_plain_width plainW plainH]
      rw [← value]
      exact congrArg (toInteger tall) (eval_outH rowsPlain
        { inputVars input with outW := wide.eval (inputVars input) } y).symm
    have width : toInteger wide (evaluate wide tall (inputVars input)).1 = .ok asked := by
      rw [evaluate_of_plain_width plainW plainH]
      exact truncated
    have asks : Asks columns rows input asked n := ⟨_, _, parsedW, parsedH, width, height⟩
    have completed := Except.ok.inj (asks.requested_eq.symm.trans resolved)
    rw [complete_given (own_nonneg _) (own_nonneg _) (Int64.not_lt.2 closed)
      (Int64.not_lt.2 (Int64.le_of_lt positive))] at completed
    have kept : given input.height.toUInt64.toInt64 n = n := if_neg (Int64.ne_of_lt positive).symm
    rw [kept] at completed
    exact (Prod.mk.inj completed).2.symm
  refine ⟨sees, fun same n value positive => ?_⟩
  rw [← same] at value
  exact sees n value positive

end

theorem parse_a : Expression.parse "a" = .ok ⟨"a", .var .a⟩ :=
  Expression.parse_word (show "a".toList = 'a' :: [] from rfl) rfl rfl (by decide)

def twiceWidth : Expression :=
  ⟨"ow+ow", .binary .add (.var .outW) (.var .outW)⟩

theorem parse_twiceWidth : Expression.parse "ow+ow" = .ok twiceWidth := by
  have scanned : (Expression.Token.scan ['o', 'w', '+', 'o', 'w']).map Expression.Lexeme.token =
      [.word "ow"] ++ .plus :: [.word "ow"] := by
    rw [Expression.Token.scan_cons (t := .word "ow") (n := 1) rfl rfl, List.drop_one,
      List.tail_cons, Expression.Token.scan_cons (t := .plus) (n := 0) rfl rfl, List.drop_zero,
      Expression.Token.scan_cons (t := .word "ow") (n := 1) rfl rfl, List.drop_one,
      List.tail_cons, Expression.Token.scan]
    rfl
  have operand : Expression.Derives .operand [.word "ow"] (.var .outW) := .var rfl
  exact Expression.parse_of_scan scanned
    (.add (.product (.signed (.operand operand))) (.signed (.operand operand)))

theorem toInteger_a :
    toInteger ⟨"a", .var .a⟩ (Expression.eval ⟨"a", .var .a⟩
      (inputVars ⟨3, 2, .unset, .nv12, .nv12⟩)) = .ok 1 :=
  toInteger_ok (by decide +kernel) (show _ = (1 : Int) by decide +kernel)

theorem toInteger_twiceWidth :
    toInteger twiceWidth (twiceWidth.eval { inputVars ⟨3, 2, .unset, .nv12, .nv12⟩ with
      outW := Expression.eval ⟨"a", .var .a⟩ (inputVars ⟨3, 2, .unset, .nv12, .nv12⟩) }) = .ok 3 :=
  toInteger_ok (by decide +kernel) (show _ = (3 : Int) by decide +kernel)

theorem asks_twiceWidth : Asks "a" "ow+ow" ⟨3, 2, .unset, .nv12, .nv12⟩ 1 3 :=
  ⟨_, _, parse_a, parse_twiceWidth, toInteger_a, toInteger_twiceWidth⟩

theorem height_sees_one_and_a_half :
    requested "a" "ow+ow" ⟨3, 2, .unset, .nv12, .nv12⟩ = .ok (1, 3) := by
  have resolved : requested "a" "ow+ow" ⟨3, 2, .unset, .nv12, .nv12⟩ =
      .ok ((complete 3 2 1 3).1, (complete 3 2 1 3).2) := asks_twiceWidth.requested_eq
  have rows : (complete 3 2 1 3).2 = 3 := (height_sees_value parse_a parse_twiceWidth rfl rfl rfl
    toInteger_a (by decide) resolved _).1 3 toInteger_twiceWidth (by decide)
  have columns : (complete 3 2 1 3).1 = 1 := by decide
  rw [resolved, columns, rows]

/-- The height does not always see the width that is left. -/
theorem height_not_of_width :
    ¬∀ (columns rows : String) (input : Input) (wide tall : Expression) (w h asked n : Int64)
      (y : Float), Expression.parse columns = .ok wide → Expression.parse rows = .ok tall →
      wide.uses .outW = false → wide.uses .outH = false → tall.uses .outH = false →
      toInteger wide (wide.eval (inputVars input)) = .ok asked → 0 ≤ asked →
      requested columns rows input = .ok (w, h) →
      toInteger tall (tall.eval
        { inputVars input with outW := Float.ofInt w.toInt, outH := y }) = .ok n →
      0 < n → h = n := by
  intro law
  have twice : toInteger twiceWidth (twiceWidth.eval
      { inputVars ⟨3, 2, .unset, .nv12, .nv12⟩ with
        outW := Float.ofInt (1 : Int64).toInt }) = .ok 2 :=
    toInteger_ok (by decide +kernel) (show _ = (2 : Int) by decide +kernel)
  have two : (complete 3 2 1 3).2 = 2 := law _ _ _ _ _ _ _ _ _ _ parse_a parse_twiceWidth rfl rfl
    rfl toInteger_a (by decide) asks_twiceWidth.requested_eq twice (by decide)
  exact absurd two (by decide)

end VideoScaler.Dimensions
