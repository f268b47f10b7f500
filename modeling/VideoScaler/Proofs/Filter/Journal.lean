import Mathlib.Logic.Relation
import VideoScaler.Filter.Basic

/-! What happens to the components and setups of a filter, told in the order in which it happens.

The definitions here do what those of the filter do, step by step, and tell about it on the
way. Without the telling they are the same.
-/

set_option autoImplicit false

namespace VideoScaler

inductive Event (κ : Type) where
  /-- A component was made in the context of a setup, and got ready. -/
  | started (setup : Setup) (c : κ)
  | terminated (c : κ)
  /-- A setup was given up, with its context and its pool of output frames. -/
  | released (setup : Setup)

variable {κ : Type} [Component κ]

namespace Scaler

/-- Get a component ready. It is started when it accepts the layout and size of its input. -/
def prepareTold (setup : Setup) (c : κ) (settings : List (String × Variant))
    (input : SurfaceFormat) (size : Resolution) : (Except Error Unit × κ) × List (Event κ) :=
  match applySettings c settings with
  | (.error e, c) => ((.error e, c), [])
  | (.ok (), c) =>
    match Component.init c input size.width.toInt32 size.height.toInt32 with
    | (.ok (), c) => ((.ok (), c), [.started setup c])
    | (.error status, c) => ((.error (.operation "Init" status), c), [])

def configureTold (s : Scaler κ) (runtime : Runtime κ) (setup : Setup) (outSize : Resolution)
    (config : ScaleConfig) (inSize : Resolution) (m : Media) :
    (Except Error Unit × Scaler κ × Media) × List (Event κ) :=
  let outFormat := setup.source.outputPool.desc.swFormat
  if s.state ≠ .uninitialized then
    ((.error (.internal (.configureState s.state.name)), s, m), [])
  else if SurfaceFormat.ofPixelFormat outFormat = .unknown then
    ((.error (.config (.converterOutput outFormat)), s, m), [])
  else if SurfaceFormat.ofPixelFormat setup.layout = .unknown then
    ((.error (.config (.converterInput setup.layout)), s, m), [])
  else
    match setup.source.context.createComponent runtime converterName with
    | .error e => ((.error e, s, m), [])
    | .ok c =>
      let settings := settings config (.ofPixelFormat outFormat) outSize
      match prepareTold setup c settings (.ofPixelFormat setup.layout) inSize with
      | ((.error e, c), events) => ((.error e, s, Component.discard c m), events)
      | ((.ok (), c), events) =>
        ((.ok (), { s with component := some c, state := .configured }, m), events)

def terminateTold (s : Scaler κ) (m : Media) : (Scaler κ × Media) × List (Event κ) :=
  let state := if s.state = .uninitialized then .uninitialized else .terminated
  match s.component with
  | none => (({ s with state }, m), [])
  | some c =>
    let (_, d, m) := Component.terminate c m
    (({ s with component := none, state }, Component.discard d m), [.terminated c])

end Scaler

namespace ScaleFilter

def releases (f : ScaleFilter κ) : List (Event κ) :=
  f.configured.toList.map fun c => .released c.setup

def stopTold (f : ScaleFilter κ) (w : World) : (ScaleFilter κ × World) × List (Event κ) :=
  let ((scaler, media), events) := f.scaler.terminateTold w.media
  (({ f with scaler }, { w with media }), events)

def uninitTold (f : ScaleFilter κ) (w : World) : (ScaleFilter κ × World) × List (Event κ) :=
  let ((g, w), events) := f.stopTold w
  (({ g with configured := none }, w), events ++ g.releases)

def configureTold (f : ScaleFilter κ) (runtime : Runtime κ) (link : InputLink)
    (outFormat : PixelFormat) (w : World) :
    (Except Error OutputLink × ScaleFilter κ × World) × List (Event κ) :=
  match f.plan runtime link outFormat w with
  | .error e => ((.error e, f, w), [])
  | .ok ((size, setup), w) =>
    let ((_, media), ended) := f.scaler.terminateTold w.media
    let pool := setup.source.outputPool
    let ((result, scaler, media), started) :=
      Scaler.new.configureTold runtime setup size f.config link.size media
    let g := { f with scaler }
    let w := { w with media }
    match result with
    -- The setup goes that was made for nothing.
    | .error e => ((.error e, g, w), ended ++ started ++ [.released setup])
    | .ok () =>
      let output : OutputLink :=
        ⟨pool.desc.format, size.width, size.height, link.sar.rescale link.size size, pool⟩
      ((.ok output, { g with configured := some ⟨setup, output⟩ }, w),
        ended ++ started ++ f.releases)

def configOutputTold (f : ScaleFilter κ) (runtime : Runtime κ) (link : InputLink)
    (outFormat : PixelFormat) (w : World) :
    (Except Error OutputLink × ScaleFilter κ × World) × List (Event κ) :=
  match f.checkFormats link outFormat with
  | .error e => ((.error e, f, w), [])
  | .ok () =>
    let ((f, w), ended) := if f.configured.isSome then f.uninitTold w else ((f, w), [])
    let (result, events) := f.configureTold runtime link outFormat w
    (result, ended ++ events)

/-- Drop a filter: after it is stopped, its scaler goes, which terminates once more, and then
its setup. -/
def dropTold (f : ScaleFilter κ) (w : World) : World × List (Event κ) :=
  let ((f, w), stopped) := f.uninitTold w
  let ((f, w), again) := f.stopTold w
  (w, stopped ++ again ++ f.releases)

end ScaleFilter

namespace Scaler

theorem prepareTold_fst (setup : Setup) (c : κ) (settings : List (String × Variant))
    (input : SurfaceFormat) (size : Resolution) :
    (prepareTold setup c settings input size).1 = prepare c settings input size := by
  unfold prepareTold prepare
  rcases applySettings c settings with ⟨_ | _, d⟩
  · rfl
  · rcases init : Component.init d input size.width.toInt32 size.height.toInt32 with ⟨_ | _, e⟩ <;>
      simp only [init]

theorem configureTold_fst (s : Scaler κ) (runtime : Runtime κ) (setup : Setup)
    (outSize : Resolution) (config : ScaleConfig) (inSize : Resolution) (m : Media) :
    (s.configureTold runtime setup outSize config inSize m).1
      = s.configure runtime setup.source.context setup.source.outputPool.desc.swFormat outSize
          config setup.layout inSize m := by
  unfold configureTold configure
  simp only [← prepareTold_fst setup]
  split
  · rfl
  split
  · rfl
  split
  · rfl
  cases setup.source.context.createComponent runtime converterName with
  | error e => rfl
  | ok c =>
    simp only
    rcases prepareTold setup c _ _ inSize with ⟨⟨_ | _, d⟩, events⟩ <;> rfl

theorem terminateTold_fst (s : Scaler κ) (m : Media) :
    (s.terminateTold m).1 = s.terminate m := by
  cases held : s.component <;> simp only [terminateTold, terminate, held]

end Scaler

namespace ScaleFilter

theorem stopTold_fst (f : ScaleFilter κ) (w : World) : (f.stopTold w).1 = f.stop w := by
  simp only [stopTold, stop, Scaler.terminateTold_fst]

theorem uninitTold_fst (f : ScaleFilter κ) (w : World) : (f.uninitTold w).1 = f.uninit w := by
  simp only [uninitTold, uninit, stopTold_fst]

theorem configureTold_fst (f : ScaleFilter κ) (runtime : Runtime κ) (link : InputLink)
    (outFormat : PixelFormat) (w : World) :
    (f.configureTold runtime link outFormat w).1 = f.configure runtime link outFormat w := by
  unfold configureTold configure
  rcases f.plan runtime link outFormat w with e | ⟨⟨size, setup⟩, w⟩
  · rfl
  · simp only [← Scaler.configureTold_fst, Scaler.terminateTold_fst]
    cases (Scaler.new.configureTold runtime setup size f.config link.size
      (f.scaler.terminate w.media).2).1.1 <;> rfl

theorem configOutputTold_fst (f : ScaleFilter κ) (runtime : Runtime κ) (link : InputLink)
    (outFormat : PixelFormat) (w : World) :
    (f.configOutputTold runtime link outFormat w).1 = f.configOutput runtime link outFormat w := by
  unfold configOutputTold configOutput
  cases f.checkFormats link outFormat with
  | error e => rfl
  | ok =>
    simp only [configureTold_fst]
    split
    · simp only [uninitTold_fst]
    · rfl

end ScaleFilter

end VideoScaler
