import VideoScaler.Filter.Basic
import VideoScaler.Proofs.Dimensions.Variables
import VideoScaler.Proofs.Filter.Serving

/-! The layout of the output and the size that is resolved for it.

The size is resolved before the pool of output frames is made, for the layout asked for or else that
of the input. Frames in host memory have their own format as layout, and those on the device of the
input the layout of its pool: where these share color samples differently, a size that refers to the
subsampling of the output is taken for another layout than is produced.
-/

set_option autoImplicit false

namespace VideoScaler

def InputLink.producedLayout (link : InputLink) (outFormat : PixelFormat) : PixelFormat :=
  if outFormat.isHardware then
    match link.pool with
    | some pool => pool.desc.swFormat
    | none => link.format
  else outFormat

/-- Is the size resolved for color samples that are shared in another way than in the output? -/
def InputLink.Misjudges (link : InputLink) (asked : Option PixelFormat) (outFormat : PixelFormat) :
    Prop :=
  asked = none ∧ link.layout.chromaShift ≠ (link.producedLayout outFormat).chromaShift

namespace Setup

variable {κ : Type} {runtime : Runtime κ} {link : InputLink} {device : Option Device}
  {outFormat inFormat : PixelFormat} {size : Resolution} {userFormat : Option PixelFormat}
  {w v : World} {source : ContextSource} {desc : PoolDesc}

theorem swFormat_of_poolDesc {result : PoolDesc}
    (described : poolDesc desc userFormat = .ok result) :
    result.swFormat =
      userFormat.getD (if desc.format.isHardware then desc.swFormat else desc.format) := by
  simp only [poolDesc] at described
  split at described
  case isTrue hardware =>
    cases described
    rw [if_pos hardware]
  case isFalse host =>
    split at described
    case isTrue => cases described
    case isFalse agree =>
      cases described
      rw [if_neg host]
      cases userFormat with
      | none => rfl
      | some wanted =>
        by_contra differ
        exact agree ⟨rfl, fun same => differ same.symm⟩

theorem swFormat_of_addPool {result : PoolDesc} {pool : FramePool} {owner : Device}
    (described : poolDesc desc userFormat = .ok result)
    (added : w.addPool owner result = .ok (pool, v)) :
    pool.desc.swFormat =
      userFormat.getD (if desc.format.isHardware then desc.swFormat else desc.format) := by
  rw [(World.addPool_ok added).1]
  exact swFormat_of_poolDesc described

theorem swFormat_onInputPool {input : FramePool}
    (chosen : onInputPool runtime input outFormat size userFormat w = .ok (source, v)) :
    source.outputPool.desc.swFormat =
      userFormat.getD (if outFormat.isHardware then input.desc.swFormat else outFormat) := by
  unfold onInputPool at chosen
  split at chosen
  · cases chosen
  obtain ⟨context, -, chosen⟩ := bind_ok chosen
  obtain ⟨desc, described, chosen⟩ := bind_ok chosen
  obtain ⟨⟨output, _⟩, added, chosen⟩ := bind_ok chosen
  cases chosen
  exact swFormat_of_addPool described added

theorem swFormat_onDevice {bound : Device}
    (chosen : onDevice runtime bound inFormat outFormat size userFormat w = .ok (source, v)) :
    source.outputPool.desc.swFormat =
      userFormat.getD (if outFormat.isHardware then inFormat else outFormat) := by
  unfold onDevice at chosen
  obtain ⟨context, -, chosen⟩ := bind_ok chosen
  obtain ⟨desc, described, chosen⟩ := bind_ok chosen
  obtain ⟨⟨output, _⟩, added, chosen⟩ := bind_ok chosen
  cases chosen
  exact swFormat_of_addPool described added

theorem swFormat_onNewContext
    (chosen : onNewContext runtime inFormat outFormat size userFormat w = .ok (source, v)) :
    source.outputPool.desc.swFormat =
      userFormat.getD (if outFormat.isHardware then inFormat else outFormat) := by
  unfold onNewContext at chosen
  obtain ⟨context, -, chosen⟩ := bind_ok chosen
  obtain ⟨desc, described, chosen⟩ := bind_ok chosen
  obtain ⟨⟨output, _⟩, added, chosen⟩ := bind_ok chosen
  cases chosen
  exact swFormat_of_addPool described added

theorem swFormat_configure {setup : Setup}
    (configured : configure runtime link device outFormat size userFormat w = .ok (setup, v)) :
    setup.source.outputPool.desc.swFormat = userFormat.getD (link.producedLayout outFormat) := by
  unfold configure at configured
  unfold InputLink.producedLayout
  cases pool : link.pool with
  | some input =>
    simp only [pool] at configured
    split at configured
    · cases configured
    obtain ⟨⟨source, _⟩, chosen, configured⟩ := bind_ok configured
    cases configured
    exact swFormat_onInputPool chosen
  | none =>
    cases device with
    | some device =>
      simp only [pool] at configured
      split at configured
      · cases configured
      obtain ⟨⟨source, _⟩, chosen, configured⟩ := bind_ok configured
      cases configured
      exact swFormat_onDevice chosen
    | none =>
      simp only [pool] at configured
      split at configured
      · cases configured
      obtain ⟨⟨source, _⟩, chosen, configured⟩ := bind_ok configured
      cases configured
      exact swFormat_onNewContext chosen

end Setup

namespace ScaleFilter

variable {κ : Type} [Component κ] {runtime : Runtime κ} {f g : ScaleFilter κ} {link : InputLink}
  {outFormat : PixelFormat} {output : OutputLink} {w v : World}

structure Decided (runtime : Runtime κ) (f : ScaleFilter κ) (link : InputLink)
    (outFormat : PixelFormat) (output : OutputLink) (setup : Setup) : Prop where
  resolved : Dimensions.resolve f.config (f.dimensions link) = .ok output.size
  configured : ∃ w v, Setup.configure runtime link f.device outFormat output.size f.config.format w
    = .ok (setup, v)
  pool_eq : output.pool = setup.source.outputPool

theorem decided_of_configure
    (configured : f.configure runtime link outFormat w = (.ok output, g, v)) :
    ∃ setup, g.configured = some ⟨setup, output⟩ ∧ f.Decided runtime link outFormat output setup := by
  unfold configure at configured
  split at configured
  · cases configured
  case h_2 size setup _ planned =>
    unfold plan at planned
    obtain ⟨_, resolved, planned⟩ := bind_ok planned
    obtain ⟨⟨_, _⟩, chosen, planned⟩ := bind_ok planned
    cases planned
    simp only at configured
    split at configured
    · cases configured
    · cases configured
      exact ⟨setup, rfl, resolved, ⟨_, _, chosen⟩, rfl⟩

theorem decided_of_configOutput
    (accepted : f.configOutput runtime link outFormat w = (.ok output, g, v)) :
    ∃ setup, g.configured = some ⟨setup, output⟩ ∧ f.Decided runtime link outFormat output setup := by
  unfold configOutput at accepted
  split at accepted
  · cases accepted
  · -- What is given up of an earlier link has no part in the decisions.
    have kept : (if f.configured.isSome then f.uninit w else (f, w)).1.config = f.config ∧
        (if f.configured.isSome then f.uninit w else (f, w)).1.device = f.device := by
      split
      · exact ⟨rfl, rfl⟩
      · exact ⟨rfl, rfl⟩
    generalize (if f.configured.isSome then f.uninit w else (f, w)) = start at accepted kept
    obtain ⟨idle, _⟩ := start
    obtain ⟨setup, holds, decided⟩ := decided_of_configure accepted
    refine ⟨setup, holds, ?_, ?_, decided.pool_eq⟩
    · have resolved := decided.resolved
      rwa [dimensions, kept.1] at resolved
    · have chosen := decided.configured
      rwa [kept.1, kept.2] at chosen

/-- The size is the one resolved for the layout that comes in and the layout that is asked for, or
else that of the input; the output frames have the layout that is asked for, or else the one that
the link leads to. Any size is also that of the output frames' own layout exactly when the two share
color samples in the same way; a size that does not refer to them is in any case. -/
theorem configOutput_resolves
    (accepted : f.configOutput runtime link outFormat w = (.ok output, g, v)) :
    ∃ setup, g.configured = some ⟨setup, output⟩ ∧
      output.pool.desc.swFormat = f.config.format.getD (link.producedLayout outFormat) ∧
      let sizeFor (config : ScaleConfig) (layout : PixelFormat) := Dimensions.resolve config
        ⟨link.width, link.height, link.sar, setup.layout, layout⟩
      sizeFor f.config (f.config.format.getD link.layout) = .ok output.size ∧
      ((∀ config, sizeFor config output.pool.desc.swFormat =
          sizeFor config (f.config.format.getD link.layout)) ↔
        ¬link.Misjudges f.config.format outFormat) ∧
      (¬link.Misjudges f.config.format outFormat ∨ f.config.IgnoresOutputLayout →
        sizeFor f.config output.pool.desc.swFormat = .ok output.size) := by
  obtain ⟨setup, holds, decided⟩ := decided_of_configOutput accepted
  obtain ⟨_, _, chosen⟩ := decided.configured
  have layout_eq : setup.layout = link.layout := (Setup.configure_ok chosen).1
  have produced : output.pool.desc.swFormat =
      f.config.format.getD (link.producedLayout outFormat) := by
    rw [decided.pool_eq]
    exact Setup.swFormat_configure chosen
  have sharing : output.pool.desc.swFormat.chromaShift =
      (f.config.format.getD link.layout).chromaShift ↔
        ¬link.Misjudges f.config.format outFormat := by
    rw [produced, InputLink.Misjudges]
    cases f.config.format with
    | some asked => simp
    | none => simp [eq_comm]
  have resolved := decided.resolved
  refine ⟨setup, holds, produced, ?_⟩
  rw [layout_eq, ← sharing]
  exact ⟨resolved, Dimensions.resolve_outFormat_iff (f.dimensions link),
    fun judged => (Dimensions.resolve_outFormat (f.dimensions link) judged).trans resolved⟩

theorem init_subsampling :
    ScaleFilter.init (κ := Converter) Dimensions.subsamplingConfig none =
      .ok ⟨.new, none, Dimensions.subsamplingConfig, none⟩ := by
  show Except.map _ (Expression.parse "ohsub" >>= fun _ => Expression.parse "ovsub" >>= fun _ => _)
    = _
  rw [Dimensions.parse_ohsub, Dimensions.parse_ovsub]
  rfl

theorem configOutput_subsampling (outFormat : PixelFormat)
    (listed : outFormat = .nv12 ∨ outFormat = .bgra) :
    ∃ output g v,
      (⟨.new, none, Dimensions.subsamplingConfig, none⟩ : ScaleFilter Converter).configOutput
        softwareRuntime { format := .yuv420p, width := 4, height := 2 } outFormat .empty
        = (.ok output, g, v) ∧ output.size = ⟨2, 2⟩ := by
  obtain rfl | rfl := listed
  · exact configOutput_sized rfl rfl (plan_of_resolve (Dimensions.resolve_subsampling _) rfl) rfl
  · exact configOutput_sized rfl rfl (plan_of_resolve (Dimensions.resolve_subsampling _) rfl) rfl

theorem resolves_nv12_of_yuv420p : ∃ output g v setup,
    (⟨.new, none, Dimensions.subsamplingConfig, none⟩ : ScaleFilter Converter).configOutput
      softwareRuntime { format := .yuv420p, width := 4, height := 2 } .nv12 .empty
      = (.ok output, g, v) ∧
    g.configured = some ⟨setup, output⟩ ∧ output.pool.desc.swFormat = .nv12 ∧
    Dimensions.resolve Dimensions.subsamplingConfig
      ⟨4, 2, Ratio.unset, setup.layout, .nv12⟩ = .ok output.size := by
  obtain ⟨output, g, v, accepted, -⟩ := configOutput_subsampling .nv12 (.inl rfl)
  obtain ⟨setup, holds, produced, -, -, resolved⟩ := configOutput_resolves accepted
  have judged : ¬InputLink.Misjudges { format := .yuv420p, width := 4, height := 2 } none .nv12 :=
    fun misjudged => misjudged.2 rfl
  have size_eq := resolved (.inl judged)
  rw [produced] at size_eq
  exact ⟨output, g, v, setup, accepted, holds, produced, size_eq⟩

/-- Output frames that do not share color samples get a size resolved for frames that do. -/
theorem missizes_bgra_of_yuv420p : ∃ (f g : ScaleFilter Converter) (output : OutputLink)
    (v : World) (setup : Setup), ScaleFilter.init Dimensions.subsamplingConfig none = .ok f ∧
    f.configOutput softwareRuntime { format := .yuv420p, width := 4, height := 2 } .bgra .empty
      = (.ok output, g, v) ∧
    g.configured = some ⟨setup, output⟩ ∧ output.size = ⟨2, 2⟩ ∧
    Dimensions.resolve f.config
      ⟨4, 2, Ratio.unset, setup.layout, output.pool.desc.swFormat⟩ = .ok ⟨1, 1⟩ := by
  obtain ⟨output, g, v, accepted, size_eq⟩ := configOutput_subsampling .bgra (.inr rfl)
  obtain ⟨setup, holds, decided⟩ := decided_of_configOutput accepted
  obtain ⟨_, _, chosen⟩ := decided.configured
  have produced : output.pool.desc.swFormat = .bgra := by
    rw [decided.pool_eq]
    exact Setup.swFormat_configure chosen
  refine ⟨_, g, output, v, setup, init_subsampling, accepted, holds, size_eq, ?_⟩
  rw [produced]
  exact Dimensions.resolve_subsampling _

end ScaleFilter

end VideoScaler
