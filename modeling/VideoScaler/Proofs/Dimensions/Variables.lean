import VideoScaler.Proofs.Dimensions.Bounds

/-! What the output size depends on.

The values of the two expressions depend on the variables that occur in them, and the layout of the
output enters by its subsampling alone.
-/

set_option autoImplicit false

namespace VideoScaler

def Expression.Vars.AgreeOn (used : Expression.Variable → Prop) (vars other : Expression.Vars) :
    Prop :=
  ∀ v, used v → vars.get v = other.get v

namespace Expression.Vars.AgreeOn

variable {used : Expression.Variable → Prop} {vars other : Expression.Vars}

theorem set_outW (agree : AgreeOn used vars other) (value : Float) :
    AgreeOn used { vars with outW := value } { other with outW := value } := by
  intro v needed
  cases v with
  | outW => rfl
  | _ => exact agree _ needed

theorem set_outH (agree : AgreeOn used vars other) (value : Float) :
    AgreeOn used { vars with outH := value } { other with outH := value } := by
  intro v needed
  cases v with
  | outH => rfl
  | _ => exact agree _ needed

theorem eval {e : Expression} (agree : AgreeOn used vars other)
    (covers : ∀ v, e.uses v = true → used v) : e.eval vars = e.eval other :=
  Expression.Term.eval_congr fun v occurs => agree v (covers v occurs)

end Expression.Vars.AgreeOn

namespace Dimensions

variable {w h : Expression} {vars other : Expression.Vars} {config : ScaleConfig} {input : Input}
  {layout : PixelFormat}

theorem evaluate_congr
    (agree : vars.AgreeOn (fun v => w.uses v = true ∨ h.uses v = true) other) :
    evaluate w h vars = evaluate w h other := by
  have width : w.eval vars = w.eval other := agree.eval fun _ => .inl
  have known := agree.set_outW (w.eval other)
  have height := known.eval (e := h) fun _ => .inr
  -- The width is taken once more, now that the height is known.
  have again := (known.set_outH (h.eval { other with outW := w.eval other })).eval
    (e := w) fun _ => .inl
  unfold evaluate
  simp only [width, height]
  exact Prod.ext again rfl

end Dimensions

/-- Does neither size refer to the subsampling of the output? -/
def ScaleConfig.IgnoresOutputLayout (config : ScaleConfig) : Prop :=
  ∀ source ∈ [config.width, config.height], ∀ e, Expression.parse source = .ok e →
    e.uses .ohsub = false ∧ e.uses .ovsub = false

namespace Dimensions

variable {config : ScaleConfig} {input : Input} {layout : PixelFormat}

theorem inputVars_congr (same : layout.chromaShift = input.outFormat.chromaShift) :
    inputVars { input with outFormat := layout } = inputVars input := by
  unfold inputVars
  rw [same]

theorem inputVars_agreeOn (input : Input) (layout : PixelFormat) :
    (inputVars { input with outFormat := layout }).AgreeOn (fun v => v ≠ .ohsub ∧ v ≠ .ovsub)
      (inputVars input) := by
  rintro v ⟨columns, rows⟩
  cases v with
  | ohsub => exact absurd rfl columns
  | ovsub => exact absurd rfl rows
  | _ => rfl

theorem requested_congr {columns rows : String}
    (same : ∀ w h, Expression.parse columns = .ok w → Expression.parse rows = .ok h →
      evaluate w h (inputVars { input with outFormat := layout }) =
        evaluate w h (inputVars input)) :
    requested columns rows { input with outFormat := layout } = requested columns rows input := by
  unfold requested
  cases wide : Expression.parse columns with
  | error e => simp only [bind, Except.bind]
  | ok w =>
    cases tall : Expression.parse rows with
    | error e => simp only [bind, Except.bind]
    | ok h => simp only [bind, Except.bind, same w h wide tall]

theorem resolve_congr
    (same : requested config.width config.height { input with outFormat := layout } =
      requested config.width config.height input) :
    resolve config { input with outFormat := layout } = resolve config input := by
  unfold resolve
  rw [same]

/-- The layout of the output matters to the size only by its subsampling, and only if an expression
refers to it. -/
theorem resolve_outFormat (input : Input)
    (same : layout.chromaShift = input.outFormat.chromaShift ∨ config.IgnoresOutputLayout) :
    resolve config { input with outFormat := layout } = resolve config input := by
  apply resolve_congr
  apply requested_congr
  intro w h wide tall
  obtain shifts | ignores := same
  · rw [inputVars_congr shifts]
  · apply evaluate_congr
    intro v occurs
    have inW := ignores config.width List.mem_cons_self w wide
    have inH := ignores config.height (List.mem_cons_of_mem _ List.mem_cons_self) h tall
    apply inputVars_agreeOn input layout v
    constructor
    · rintro rfl
      simp [inW.1, inH.1] at occurs
    · rintro rfl
      simp [inW.2, inH.2] at occurs

def subsamplingConfig : ScaleConfig :=
  { width := "ohsub", height := "ovsub" }

theorem parse_ohsub : Expression.parse "ohsub" = .ok ⟨"ohsub", .var .ohsub⟩ :=
  Expression.parse_word (show "ohsub".toList = 'o' :: ['h', 's', 'u', 'b'] from rfl) rfl rfl
    (by decide)

theorem parse_ovsub : Expression.parse "ovsub" = .ok ⟨"ovsub", .var .ovsub⟩ :=
  Expression.parse_word (show "ovsub".toList = 'o' :: ['v', 's', 'u', 'b'] from rfl) rfl rfl
    (by decide)

/-- How many samples share one color sample along an axis that is halved once or not at all. -/
def sharing (shift : Nat) : UInt32 :=
  if shift = 0 then 1 else 2

theorem chromaShift_le (layout : PixelFormat) :
    layout.chromaShift.1 ≤ 1 ∧ layout.chromaShift.2 ≤ 1 := by
  cases layout <;> decide

theorem toInteger_subsampling (e : Expression) {shift : Nat} (small : shift ≤ 1) :
    toInteger e (subsampling shift) = .ok (sharing shift).toUInt64.toInt64 := by
  obtain rfl | rfl : shift = 0 ∨ shift = 1 := by omega
  · exact toInteger_ok (n := 1) (by decide +kernel) (by decide +kernel)
  · exact toInteger_ok (n := 2) (by decide +kernel) (by decide +kernel)

theorem isLength_sharing (shift : Nat) : isLength (sharing shift).toUInt64.toInt64 = true := by
  unfold sharing
  split <;> decide

theorem resolve_subsampling (input : Input) :
    resolve subsamplingConfig input =
      .ok ⟨sharing input.outFormat.chromaShift.1, sharing input.outFormat.chromaShift.2⟩ := by
  obtain ⟨columns, rows⟩ := chromaShift_le input.outFormat
  rw [resolve_of_values parse_ohsub parse_ovsub (toInteger_subsampling _ columns)
    (toInteger_subsampling _ rows) ⟨isLength_sharing _, isLength_sharing _⟩ rfl rfl rfl]
  simp

theorem sharing_inj {m n : Nat} (m_le : m ≤ 1) (n_le : n ≤ 1) (same : sharing m = sharing n) :
    m = n := by
  have differ : sharing 0 ≠ sharing 1 := by decide
  obtain rfl | rfl : m = 0 ∨ m = 1 := by omega
  · obtain rfl | rfl : n = 0 ∨ n = 1 := by omega
    · rfl
    · exact absurd same differ
  · obtain rfl | rfl : n = 0 ∨ n = 1 := by omega
    · exact absurd same.symm differ
    · rfl

/-- Two layouts of the output always lead to the same size exactly if they share color samples in the
same way. -/
theorem resolve_outFormat_iff (input : Input) :
    (∀ config, resolve config { input with outFormat := layout } = resolve config input) ↔
      layout.chromaShift = input.outFormat.chromaShift := by
  constructor
  · intro same
    have told := same subsamplingConfig
    rw [resolve_subsampling, resolve_subsampling, Except.ok.injEq, Resolution.mk.injEq] at told
    have small := chromaShift_le layout
    have other := chromaShift_le input.outFormat
    exact Prod.ext (sharing_inj small.1 other.1 told.1) (sharing_inj small.2 other.2 told.2)
  · exact fun shifts config => resolve_outFormat input (.inl shifts)

end Dimensions

end VideoScaler
