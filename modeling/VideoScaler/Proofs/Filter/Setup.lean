import VideoScaler.Component.Converter
import VideoScaler.Filter.Setup

/-! What a setup that was accepted looks like: where its context comes from, and which frames
its pool hands out. -/

set_option autoImplicit false

namespace VideoScaler

theorem bind_ok {ε α β : Type} {x : Except ε α} {f : α → Except ε β} {b : β}
    (bound : x >>= f = .ok b) : ∃ a, x = .ok a ∧ f a = .ok b := by
  cases x with
  | error => cases bound
  | ok a => exact ⟨a, rfl, bound⟩

namespace World

theorem addPool_ok {w v : World} {device : Device} {desc : PoolDesc} {pool : FramePool}
    (added : w.addPool device desc = .ok (pool, v)) :
    pool.desc = desc ∧ desc.width ≠ 0 ∧ desc.height ≠ 0 ∧ desc.swFormat.isHardware = false := by
  unfold addPool at added
  split at added
  · cases added
  case isFalse size =>
    split at added <;> cases added
    case isFalse layout =>
      exact ⟨rfl, fun zero => size (.inl zero), fun zero => size (.inr zero),
        Bool.eq_false_iff.2 layout⟩

end World

/-- Does a pool hand out frames of a format and a size? Frames in host memory have their own
layout. -/
structure FramePool.Yields (format : PixelFormat) (size : Resolution) (pool : FramePool) :
    Prop where
  format_eq : pool.desc.format = format
  width_eq : pool.desc.width = size.width
  height_eq : pool.desc.height = size.height
  width_ne : size.width ≠ 0
  height_ne : size.height ≠ 0
  layout_eq : format.isHardware = false → pool.desc.swFormat = format

namespace Setup

variable {desc : PoolDesc} {userFormat : Option PixelFormat} {size : Resolution}
  {w v : World} {pool : FramePool} {device : Device}

theorem poolDesc_ok {result : PoolDesc} (described : poolDesc desc userFormat = .ok result) :
    result.format = desc.format ∧ result.width = desc.width ∧ result.height = desc.height ∧
      (desc.format.isHardware = false → result.swFormat = desc.format) := by
  simp only [poolDesc] at described
  split at described
  case isTrue hardware =>
    cases described
    exact ⟨rfl, rfl, rfl, fun host => absurd hardware (Bool.eq_false_iff.1 host)⟩
  case isFalse =>
    split at described <;> cases described
    exact ⟨rfl, rfl, rfl, fun _ => rfl⟩

theorem yields_of_addPool {format layout : PixelFormat} {result : PoolDesc}
    (described : poolDesc ⟨format, layout, size.width, size.height⟩ userFormat = .ok result)
    (added : w.addPool device result = .ok (pool, v)) : pool.Yields format size := by
  obtain ⟨format_eq, width_eq, height_eq, layout_eq⟩ := poolDesc_ok described
  obtain ⟨rfl, width_ne, height_ne, -⟩ := World.addPool_ok added
  rw [width_eq] at width_ne
  rw [height_eq] at height_ne
  exact ⟨format_eq, width_eq, height_eq, width_ne, height_ne, layout_eq⟩

variable {κ : Type} {runtime : Runtime κ} {outFormat inFormat : PixelFormat}
  {source : ContextSource}

theorem onInputPool_ok {input : FramePool}
    (chosen : onInputPool runtime input outFormat size userFormat w = .ok (source, v)) :
    ∃ context output, source = .inputPool context input output ∧
      DeviceContext.derive runtime input.device = .ok context ∧ output.Yields outFormat size := by
  unfold onInputPool at chosen
  split at chosen
  · cases chosen
  obtain ⟨context, derived, chosen⟩ := bind_ok chosen
  obtain ⟨desc, described, chosen⟩ := bind_ok chosen
  obtain ⟨⟨output, _⟩, added, chosen⟩ := bind_ok chosen
  cases chosen
  exact ⟨context, output, rfl, derived, yields_of_addPool described added⟩

theorem onDevice_ok
    (chosen : onDevice runtime device inFormat outFormat size userFormat w = .ok (source, v)) :
    ∃ context output, source = .boundDevice context device output ∧
      DeviceContext.derive runtime device = .ok context ∧ output.Yields .amf size := by
  unfold onDevice at chosen
  obtain ⟨context, derived, chosen⟩ := bind_ok chosen
  obtain ⟨desc, described, chosen⟩ := bind_ok chosen
  obtain ⟨⟨output, _⟩, added, chosen⟩ := bind_ok chosen
  cases chosen
  exact ⟨context, output, rfl, derived, yields_of_addPool described added⟩

theorem onNewContext_ok
    (chosen : onNewContext runtime inFormat outFormat size userFormat w = .ok (source, v)) :
    ∃ context output, source = .standalone context output ∧
      DeviceContext.create runtime = .ok context ∧ output.Yields outFormat size := by
  unfold onNewContext at chosen
  obtain ⟨context, created, chosen⟩ := bind_ok chosen
  obtain ⟨desc, described, chosen⟩ := bind_ok chosen
  obtain ⟨⟨output, _⟩, added, chosen⟩ := bind_ok chosen
  cases chosen
  exact ⟨context, output, rfl, created, yields_of_addPool described added⟩

/-- Does a source of contexts follow the order of preference, with a pool that hands out frames
of the wanted size? Frames on a bound device always live on the accelerator. -/
def Follows (runtime : Runtime κ) (link : InputLink) (device : Option Device)
    (outFormat : PixelFormat) (size : Resolution) (source : ContextSource) : Prop :=
  match link.pool, device with
  | some input, _ => ∃ context output, source = .inputPool context input output ∧
      DeviceContext.derive runtime input.device = .ok context ∧ output.Yields outFormat size
  | none, some device => ∃ context output, source = .boundDevice context device output ∧
      DeviceContext.derive runtime device = .ok context ∧ output.Yields .amf size
  | none, none => ∃ context output, source = .standalone context output ∧
      DeviceContext.create runtime = .ok context ∧ output.Yields outFormat size

section
variable {link : InputLink}

theorem Follows.of_inputPool {bound : Option Device} {input : FramePool}
    (follows : Follows runtime link bound outFormat size source) (pool : link.pool = some input) :
    ∃ context output, source = .inputPool context input output ∧
      DeviceContext.derive runtime input.device = .ok context ∧ output.Yields outFormat size := by
  unfold Follows at follows
  simpa only [pool] using follows

theorem Follows.size_ne {device : Option Device}
    (follows : Follows runtime link device outFormat size source) :
    size.width ≠ 0 ∧ size.height ≠ 0 := by
  unfold Follows at follows
  split at follows <;> obtain ⟨_, _, -, -, yields⟩ := follows <;>
    exact ⟨yields.width_ne, yields.height_ne⟩

theorem Follows.yields (follows : Follows runtime link none outFormat size source) :
    source.outputPool.Yields outFormat size := by
  cases pool : link.pool with
  | some input =>
    obtain ⟨_, _, rfl, -, yields⟩ := follows.of_inputPool pool
    exact yields
  | none =>
    simp only [Follows, pool] at follows
    obtain ⟨_, _, rfl, -, yields⟩ := follows
    exact yields

end

theorem configure_ok {link : InputLink} {device : Option Device} {setup : Setup}
    (configured : configure runtime link device outFormat size userFormat w = .ok (setup, v)) :
    setup.layout = link.layout ∧ Follows runtime link device outFormat size setup.source := by
  unfold configure at configured
  unfold Follows
  -- Input frames on a device come first, then the bound device, then a context of one's own.
  cases pool : link.pool with
  | some input =>
    simp only [pool] at configured
    split at configured
    · cases configured
    obtain ⟨⟨source, _⟩, chosen, configured⟩ := bind_ok configured
    cases configured
    exact ⟨rfl, onInputPool_ok chosen⟩
  | none =>
    cases device with
    | some device =>
      simp only [pool] at configured
      split at configured
      · cases configured
      obtain ⟨⟨source, _⟩, chosen, configured⟩ := bind_ok configured
      cases configured
      exact ⟨rfl, onDevice_ok chosen⟩
    | none =>
      simp only [pool] at configured
      split at configured
      · cases configured
      obtain ⟨⟨source, _⟩, chosen, configured⟩ := bind_ok configured
      cases configured
      exact ⟨rfl, onNewContext_ok chosen⟩

end Setup

end VideoScaler
