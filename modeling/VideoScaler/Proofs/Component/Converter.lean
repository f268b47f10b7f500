import Mathlib.Data.List.Nodup
import VideoScaler.Proofs.Component.Polling
import VideoScaler.Proofs.Conversion.Bounds
import VideoScaler.Proofs.Surface.Media

/-! What the converter does once it is set up.

Setting up fixes the layout and the size of all results. From then on the converter is the
same before and after every surface: what it makes of a surface is handed out at once, and
nothing is left behind.
-/

set_option autoImplicit false

namespace VideoScaler

theorem lookup_without {κ α : Type} [DecidableEq κ] {name other : κ} (entries : List (κ × α))
    (ne : other ≠ name) :
    (entries.filter fun entry => entry.1 ≠ name).lookup other = entries.lookup other := by
  induction entries with
  | nil => rfl
  | cons entry entries ih =>
    rcases entry with ⟨key, value⟩
    rcases eq_or_ne key name with rfl | kept
    · rw [List.filter_cons_of_neg (by simp), ih, List.lookup_cons, beq_false_of_ne ne]
    · rw [List.filter_cons_of_pos (by simpa using kept), List.lookup_cons, List.lookup_cons, ih]

namespace Scaler

variable {κ : Type} [Component κ] {c d e : κ} {s output : Surface} {m n k : Media}

theorem poll_of_ready {busy : Component.Busy c}
    (ready : isNotReady (Component.query c m).1 = false) :
    Component.poll c busy m = Component.query c m := by
  unfold Component.poll Component.pollWithin
  simp only [ready, Bool.false_eq_true, dite_false]

theorem exchange_of_ready (submitted : Component.submit c (.surface s) m = (.ok (), d, n))
    (handedOut : Component.query d n = (.ok (.surface output), e, k)) :
    exchange c s m = (.ok output, e, k) := by
  have ready : isNotReady (Component.query d n).1 = false := by
    rw [handedOut]
    rfl
  exact exchange_of_polled submitted fun busy => (poll_of_ready ready).trans handedOut

end Scaler

namespace Converter

variable {c : Converter} {name other : String} {value : Variant}

/-! ### Properties -/

theorem setProperty_eq (c : Converter) (name : String) (value : Variant) :
    ∃ properties, (c.setProperty name value).2 = { c with properties } := by
  unfold setProperty
  split
  · exact ⟨_, rfl⟩
  · exact ⟨c.properties, rfl⟩

theorem property?_setProperty (accepted : (c.setProperty name value).1 = .ok ()) :
    (c.setProperty name value).2.property? name = some value := by
  unfold setProperty at accepted ⊢
  split at accepted
  case isTrue valid => simp only [valid, if_true, property?, List.lookup_cons_self]
  case isFalse => cases accepted

theorem property?_setProperty_of_ne (c : Converter) (value : Variant) (ne : other ≠ name) :
    (c.setProperty name value).2.property? other = c.property? other := by
  unfold setProperty
  split
  · have skipped : (other == name) = false := beq_false_of_ne ne
    simp only [property?, List.lookup_cons, skipped]
    exact lookup_without c.properties ne
  · rfl

-- Without repetitions no setting is overwritten by a later one, so the converter has all of
-- them in the end. What is kept about other names carries the induction.
theorem applySettings_ok {settings : List (String × Variant)} {d : Converter}
    (applied : Scaler.applySettings c settings = (.ok (), d))
    (distinct : (settings.map Prod.fst).Nodup) :
    (∃ properties, d = { c with properties }) ∧
      (∀ name, name ∉ settings.map Prod.fst → d.property? name = c.property? name) ∧
      ∀ entry ∈ settings, d.property? entry.1 = some entry.2 := by
  induction settings generalizing c with
  | nil =>
    simp only [Scaler.applySettings, Prod.mk.injEq, true_and] at applied
    subst applied
    exact ⟨⟨c.properties, rfl⟩, fun _ _ => rfl, nofun⟩
  | cons entry rest ih =>
    obtain ⟨name, value⟩ := entry
    obtain ⟨fresh, distinct⟩ := List.nodup_cons.1 distinct
    simp only [Scaler.applySettings] at applied
    split at applied
    case h_2 => cases applied
    case h_1 next set =>
      have accepted : (c.setProperty name value).1 = .ok () := congrArg Prod.fst set
      have changed : (c.setProperty name value).2 = next := congrArg Prod.snd set
      obtain ⟨⟨_, rfl⟩, kept, has⟩ := ih applied distinct
      obtain ⟨properties, same⟩ := setProperty_eq c name value
      refine ⟨?_, ?_, ?_⟩
      · rw [← changed, same]
        exact ⟨_, rfl⟩
      · intro other missing
        simp only [List.map_cons, List.mem_cons, not_or] at missing
        rw [kept other missing.2, ← changed, property?_setProperty_of_ne c value missing.1]
      · intro entry member
        rcases List.mem_cons.1 member with rfl | member
        · rw [kept name fresh, ← changed, property?_setProperty accepted]
        · exact has entry member

/-! ### A converter that is set up -/

/-- Is the converter idle, on a context with this memory, and set up to bring surfaces of one
layout to another layout and to a size? -/
structure Ready (memory : MemoryType) (source target : SurfaceFormat) (size : Resolution)
    (c : Converter) : Prop where
  memory_eq : c.memory = memory
  input_eq : ∃ width height, c.input = some (source, width, height)
  pending_eq : c.pending = none
  outputFormat_eq : ∀ input, c.outputFormat input = target
  outputSize_eq : ∀ width height,
    c.outputSize width height = (size.width.toInt32, size.height.toInt32)

theorem settings_distinct (config : ScaleConfig) (format : SurfaceFormat) (size : Resolution) :
    ((Scaler.settings config format size).map Prod.fst).Nodup := by
  simp only [Scaler.settings]
  cases config.profileProperty? <;> cases config.range <;> cases config.primariesOverride <;>
    cases config.transferOverride <;>
      simp [Property.outputFormat, Property.outputSize, Property.scaleType, Property.colorProfile,
        Property.outputColorRange, Property.outputPrimaries, Property.outputTransfer]

theorem ofCode_toInt_code (f : SurfaceFormat) :
    SurfaceFormat.ofCode (Int64.ofInt f.code).toInt = f := by
  cases f <;> rfl

theorem init_ok {d : Converter} {format : SurfaceFormat} {width height : Int32}
    (started : c.init format width height = (.ok (), d)) :
    d = { c with input := some (format, width, height), terminated := false } := by
  unfold init at started
  split at started
  · cases started
  · split at started
    · cases started
    · split at started <;> cases started
      rfl

theorem init_pos {d : Converter} {format : SurfaceFormat} {width height : Int32}
    (started : c.init format width height = (.ok (), d)) : 0 < width ∧ 0 < height := by
  unfold init at started
  split at started
  · cases started
  split at started
  · cases started
  split at started
  · cases started
  · rename_i positive
    simpa only [not_or, Int32.not_le] using positive

theorem prepare_ok {settings : List (String × Variant)} {source : SurfaceFormat}
    {size : Resolution} {d : Converter}
    (prepared : Scaler.prepare c settings source size = (.ok (), d)) :
    ∃ e, Scaler.applySettings c settings = (.ok (), e) ∧
      e.init source size.width.toInt32 size.height.toInt32 = (.ok (), d) := by
  unfold Scaler.prepare at prepared
  split at prepared
  · cases prepared
  case h_2 e applied =>
    split at prepared
    · rename_i started
      cases prepared
      exact ⟨e, applied, started⟩
    · cases prepared

theorem ready_of_prepare {memory : MemoryType} {config : ScaleConfig}
    {source target : SurfaceFormat} {size inSize : Resolution} (known : target ≠ .unknown)
    (prepared : Scaler.prepare (new memory) (Scaler.settings config target size) source inSize
      = (.ok (), c)) : c.Ready memory source target size := by
  obtain ⟨d, applied, started⟩ := prepare_ok prepared
  obtain ⟨⟨properties, same⟩, -, has⟩ := applySettings_ok applied (settings_distinct ..)
  have format : d.property? Property.outputFormat = some (.integer (Int64.ofInt target.code)) :=
    has (Property.outputFormat, .integer (Int64.ofInt target.code)) (by simp [Scaler.settings])
  have shape : d.property? Property.outputSize
      = some (.size size.width.toInt32 size.height.toInt32) :=
    has (Property.outputSize, .size size.width.toInt32 size.height.toInt32)
      (by simp [Scaler.settings])
  have result := init_ok started
  have property? (name : String) : c.property? name = d.property? name := by rw [result]; rfl
  refine ⟨?_, ?_, ?_, fun input => ?_, fun width height => ?_⟩
  · rw [result, same]
    rfl
  · exact ⟨_, _, congrArg input result⟩
  · rw [result, same]
    rfl
  · simp only [outputFormat, integerProperty?, property?, format, Option.bind_some,
      Variant.integer?, ofCode_toInt_code, if_neg known]
  · simp only [outputSize, property?, shape, Option.bind_some, Variant.size?, Option.getD_some]

section
variable {s t : Scaler Converter} {context : DeviceContext} {outFormat inFormat : PixelFormat}
  {outSize inSize : Resolution} {config : ScaleConfig} {m n : Media}
  (configured : s.configure softwareRuntime context outFormat outSize config inFormat inSize m
    = (.ok (), t, n))
include configured

theorem prepared_of_configure :
    ∃ c, t = { s with component := some c, state := .configured } ∧ n = m ∧
      SurfaceFormat.ofPixelFormat outFormat ≠ .unknown ∧
      SurfaceFormat.ofPixelFormat inFormat ≠ .unknown ∧
      Scaler.prepare (new context.memory)
        (Scaler.settings config (.ofPixelFormat outFormat) outSize) (.ofPixelFormat inFormat) inSize
          = (.ok (), c) := by
  unfold Scaler.configure at configured
  split at configured
  · cases configured
  split at configured
  · cases configured
  rename_i known
  split at configured
  · cases configured
  rename_i readable
  have created : context.createComponent softwareRuntime converterName
      = .ok (new context.memory) := rfl
  rw [created] at configured
  simp only at configured
  split at configured
  · cases configured
  case h_2 c prepared =>
    cases configured
    exact ⟨c, rfl, rfl, known, readable, prepared⟩

theorem ready_of_configure :
    ∃ c, t = { s with component := some c, state := .configured } ∧ n = m ∧
      SurfaceFormat.ofPixelFormat outFormat ≠ .unknown ∧
      SurfaceFormat.ofPixelFormat inFormat ≠ .unknown ∧
      c.Ready context.memory (.ofPixelFormat inFormat) (.ofPixelFormat outFormat) outSize := by
  obtain ⟨c, held, untouched, known, readable, prepared⟩ := prepared_of_configure configured
  exact ⟨c, held, untouched, known, readable, ready_of_prepare known prepared⟩

theorem size_pos_of_configure : 0 < inSize.width.toInt32 ∧ 0 < inSize.height.toInt32 := by
  obtain ⟨c, -, -, -, -, prepared⟩ := prepared_of_configure configured
  obtain ⟨d, -, started⟩ := prepare_ok prepared
  exact init_pos started

end

/-! ### What becomes of data -/

def blank (c : Converter) (m : Media) (format : SurfaceFormat) (width height : Int32)
    (planes : List Plane) : Surface × Media :=
  m.makeSurface c.memory (c.outputFormat format) (c.outputSize width height).1.toUInt32
    (c.outputSize width height).2.toUInt32 planes

/-- What can become of data that is given to a converter, and of the surfaces that are there. -/
inductive Accepts (c : Converter) (m : Media) : Data → Attempt Status Surface → Media → Prop where
  | unready {d : Data} (input : c.input = none) :
    Accepts c m d (.error (.refused .notInitialized)) m
  | full {d : Data} (active : c.input ≠ none) (busy : c.pending ≠ none) :
    Accepts c m d (.error (.refused .inputFull)) m
  /-- The data, or the result that is asked for, is at fault. -/
  | unfit {d : Data} {failure : Failure Status} (active : c.input ≠ none) (idle : c.pending = none)
    (reason : ∀ status, failure = .refused status →
      status ∈ [Status.noInterface, .invalidFormat, .notSupported, .invalidResolution,
        .formatNotSupported]) : Accepts c m d (.error failure) m
  | unfilled {s : Surface} {format : SurfaceFormat} {width height : Int32} {planes : List Plane}
    {failure : Failure Status} (active : c.input ≠ none) (idle : c.pending = none)
    (reason : ∀ status, failure = .refused status → status = .fail) :
    Accepts c m (.surface s) (.error failure)
      ((c.blank m format width height planes).2.release (c.blank m format width height planes).1)
  | made {s : Surface} {format : SurfaceFormat} {width height : Int32} {zeros planes : List Plane}
    (active : c.input = some (format, width, height)) (idle : c.pending = none) :
    Accepts c m (.surface s) (.ok (c.blank m format width height zeros).1)
      (((c.blank m format width height zeros).2.setPlanes (c.blank m format width height zeros).1
        planes).setPts (c.blank m format width height zeros).1
          ((c.blank m format width height zeros).2.pts s))

theorem accepts_of_accept {d : Data} {result : Attempt Status Surface} {m n : Media}
    (accepted : c.accept d m = (result, n)) : Accepts c m d result n := by
  unfold accept at accepted
  split at accepted
  case h_1 input =>
    cases accepted
    exact .unready input
  case h_2 format width height input =>
    have active : c.input ≠ none := by rw [input]; nofun
    split at accepted
    case isTrue busy =>
      cases accepted
      exact .full active (Option.isSome_iff_ne_none.1 busy)
    case isFalse idle =>
      have idle : c.pending = none := Option.not_isSome_iff_eq_none.1 idle
      split at accepted
      case h_1 =>
        cases accepted
        refine .unfit active idle fun _ same => ?_
        cases same
        decide
      case h_2 s =>
        split at accepted
        case isTrue =>
          cases accepted
          refine .unfit active idle fun _ same => ?_
          cases same
          decide
        case isFalse =>
          unfold convert at accepted
          simp only at accepted
          split at accepted
          case h_1 failure failed =>
            cases accepted
            refine .unfit active idle fun status same => ?_
            subst same
            exact List.mem_cons_of_mem _ (List.mem_cons_of_mem _ (Media.allocSurface_error failed))
          case h_2 output filled allocated =>
            obtain ⟨zeros, made⟩ := Media.makeSurface_of_allocSurface allocated
            obtain ⟨rfl, rfl⟩ := Prod.mk.inj made
            split at accepted <;> cases accepted
            case h_1 failure _ =>
              refine .unfilled active idle fun status same => ?_
              cases failure <;> cases same
              rfl
            case h_2 => exact .made input idle

theorem accept_eq_notInitialized_iff (d : Data) (m : Media) :
    (c.accept d m).1 = .error (.refused .notInitialized) ↔ c.input = none := by
  constructor
  · intro refused
    obtain ⟨n, accepted⟩ : ∃ n, c.accept d m = (.error (.refused .notInitialized), n) :=
      ⟨_, Prod.ext refused rfl⟩
    cases accepts_of_accept accepted with
    | unready input => exact input
    | unfit _ _ reason => exact absurd (reason _ rfl) (by decide)
    | unfilled _ _ reason => exact absurd (reason _ rfl) (by decide)
  · intro input
    simp only [accept, input]

theorem accept_eq_inputFull_iff (d : Data) (m : Media) :
    (c.accept d m).1 = .error (.refused .inputFull) ↔ c.input ≠ none ∧ c.pending ≠ none := by
  constructor
  · intro refused
    obtain ⟨n, accepted⟩ : ∃ n, c.accept d m = (.error (.refused .inputFull), n) :=
      ⟨_, Prod.ext refused rfl⟩
    cases accepts_of_accept accepted with
    | full active busy => exact ⟨active, busy⟩
    | unfit _ _ reason => exact absurd (reason _ rfl) (by decide)
    | unfilled _ _ reason => exact absurd (reason _ rfl) (by decide)
  · rintro ⟨active, busy⟩
    obtain ⟨_, input⟩ := Option.ne_none_iff_exists'.1 active
    simp only [accept, input, Option.isSome_iff_ne_none.2 busy, if_true]

theorem submit_error_iff (d : Data) (m : Media) (failure : Failure Status) :
    (c.submit d m).1 = .error failure ↔ (c.accept d m).1 = .error failure := by
  unfold submit
  split
  case h_1 output n accepted => rw [accepted]; exact iff_of_false nofun nofun
  case h_2 other n accepted => rw [accepted]; simp only [Except.error.injEq]

/-! ### One surface after the other -/

theorem exchange_of_accept_error {d : Converter} {s : Surface} {m n : Media}
    {failure : Failure Status} (accepted : d.accept (.surface s) m = (.error failure, n)) :
    Scaler.exchange d s m
      = (.error (failure.map (Error.operation "SubmitInput")), d, n.release s) := by
  have submitted : d.submit (.surface s) m = (.error failure, d, n.release s) := by
    simp only [submit, accepted]
    rfl
  exact Scaler.exchange_of_refused submitted

theorem idle_of_accept {d : Data} {output : Surface} {m n : Media}
    (accepted : c.accept d m = (.ok output, n)) : c.pending = none := by
  cases accepts_of_accept accepted with
  | made _ idle => exact idle

theorem exchange_of_accept_ok {d : Converter} {s output : Surface} {m n : Media}
    (idle : d.pending = none) (accepted : d.accept (.surface s) m = (.ok output, n)) :
    Scaler.exchange d s m = (.ok output, d, n.release s) := by
  -- The result is pending for the moment between the two operations.
  have submitted : d.submit (.surface s) m =
      (.ok (), { d with pending := some output }, n.release s) := by
    simp only [submit, accepted]
    rfl
  have handedOut : ({ d with pending := some output } : Converter).query (n.release s) =
      (.ok (.surface output), d, n.release s) := by
    simp only [query, ← idle]
  exact Scaler.exchange_of_ready submitted handedOut

theorem exchange_eq (idle : c.pending = none) (s : Surface) (m : Media) :
    Scaler.exchange c s m =
      match c.accept (.surface s) m with
      | (.ok output, n) => (.ok output, c, n.release s)
      | (.error failure, n) =>
        (.error (failure.map (Error.operation "SubmitInput")), c, n.release s) := by
  cases accepted : c.accept (.surface s) m with
  | mk result n =>
    cases result with
    | error failure => exact exchange_of_accept_error accepted
    | ok output => exact exchange_of_accept_ok idle accepted

section
variable {memory : MemoryType} {source target : SurfaceFormat} {size : Resolution}
  {s output : Surface} {m n : Media}

theorem accept_eq (ready : c.Ready memory source target size) (s : Surface) (m : Media) :
    c.accept (.surface s) m =
      if s.format ≠ source then (.error (.refused .invalidFormat), m)
      else
        match target.allocation size.width size.height with
        | .error failure => (.error failure, m)
        | .ok shapes =>
          let made := m.makeSurface memory target size.width size.height (shapes.map Plane.zero)
          match Conversion.convertWithin c.parameters (made.2.planes s) s.format (made.2.crop s) target
              size.width.toNat size.height.toNat with
          | .error failure =>
            (.error (failure.map fun _ => Status.fail), made.2.release made.1)
          | .ok planes =>
            (.ok made.1, (made.2.setPlanes made.1 planes).setPts made.1 (made.2.pts s)) := by
  obtain ⟨width, height, input⟩ := ready.input_eq
  unfold accept
  simp only [input, ready.pending_eq, Option.isSome_none, Bool.false_eq_true, if_false]
  split
  · rfl
  · -- A converter makes its results in the memory of its own context, which is never refused.
    have own : ¬(memory ≠ .host ∧ memory ≠ memory) := fun other => other.2 rfl
    simp only [convert, ready.outputFormat_eq, ready.outputSize_eq, ready.memory_eq,
      UInt32.toUInt32_toInt32, Media.allocSurface, Media.allocation, if_neg own]
    cases target.allocation size.width size.height with
    | error failure => rfl
    | ok shapes => rfl

theorem made_of_accept (ready : c.Ready memory source target size)
    (accepted : c.accept (.surface s) m = (.ok output, n)) :
    ∃ planes, output = (m.makeSurface memory target size.width size.height planes).1 := by
  rw [accept_eq ready] at accepted
  split at accepted
  · cases accepted
  · split at accepted
    · cases accepted
    · simp only at accepted
      split at accepted <;> cases accepted
      exact ⟨_, rfl⟩

section
variable (ready : c.Ready memory source target size) (known : source ≠ .unknown)
  (targetKnown : target ≠ .unknown) (positive : size.width ≠ 0 ∧ size.height ≠ 0)
  {state : SurfaceState} {planes : List Plane} {w h : UInt32} {columns rows : Nat}
  (format_eq : s.format = source) (found : m.surfaces.get? s.ref = some state)
  (crop_eq : state.crop = Surface.wholeRect w h) (has : m.Has s planes)
  (laid : source.Laid columns rows planes) (wide : w.toNat ≤ columns) (high : h.toNat ≤ rows)
  (width_ok : 1 ≤ w.toNat ∧ w.toNat ≤ 2147483647) (height_ok : 1 ≤ h.toNat ∧ h.toNat ≤ 2147483647)
include ready known targetKnown positive format_eq found crop_eq has laid wide high width_ok
  height_ok

/-- A surface that shows the upper left part of its picture is converted as long as there is room
for the result. -/
theorem accept_showing (fits : target.Fits size.width.toNat size.height.toNat) :
    let made := m.makeSurface memory target size.width size.height
      ((target.shapes size.width.toNat size.height.toNat).map Plane.zero)
    ∃ converted, Conversion.convert c.parameters planes source (Surface.wholeRect w h) target
        size.width.toNat size.height.toNat = .ok converted ∧
      target.Laid size.width.toNat size.height.toNat converted ∧
      c.accept (.surface s) m =
        if Conversion.HasRoom source target w.toNat h.toNat size.width.toNat size.height.toNat then
          (.ok made.1, (made.2.setPlanes made.1 converted).setPts made.1 (made.2.pts s))
        else (.error (.broken .tooLarge), made.2.release made.1) := by
  intro made
  have allocated := SurfaceFormat.allocation_ok targetKnown positive.1 positive.2 fits
  -- The planes and the crop of the input are read after the result has been made.
  have input : made.2.planes s = planes := (has.makeSurface ..).planes_eq
  have crop : made.2.crop s = Surface.wholeRect w h := by
    simp only [Media.crop, made, Media.get?_makeSurface_of_some found, Option.map_some, crop_eq,
      Option.getD_some]
  obtain ⟨region, regionFound, whole⟩ := Conversion.ofRect?_wholeRect width_ok height_ok
  have within : region.Within columns rows :=
    ⟨Nat.le_trans whole.within.columns wide, Nat.le_trans whole.within.rows high⟩
  have wpos : 0 < size.width.toNat :=
    UInt32.lt_iff_toNat_lt.1 (UInt32.pos_iff_ne_zero.2 positive.1)
  have hpos : 0 < size.height.toNat :=
    UInt32.lt_iff_toNat_lt.1 (UInt32.pos_iff_ne_zero.2 positive.2)
  obtain ⟨converted, ok, outLaid⟩ := Conversion.convertRegion_ok c.parameters laid
    known targetKnown within wpos hpos
  have result :=
    (Conversion.convert_eq c.parameters planes source target regionFound wpos hpos).trans ok
  have bounded : Conversion.convertWithin c.parameters planes source (Surface.wholeRect w h) target
      size.width.toNat size.height.toNat = _ :=
    Conversion.convertWithin_of_within c.parameters laid known regionFound within
  rw [whole.width_eq, whole.height_eq, result] at bounded
  refine ⟨converted, result, outLaid, ?_⟩
  rw [accept_eq ready, if_neg (not_not.2 format_eq), allocated]
  simp only
  rw [input, crop, format_eq]
  by_cases room : Conversion.HasRoom source target w.toNat h.toNat size.width.toNat
    size.height.toNat
  · rw [if_pos room] at bounded ⊢
    rw [bounded]
  · rw [if_neg room] at bounded ⊢
    rw [bounded]
    rfl

theorem accept_inside (fits : target.Fits size.width.toNat size.height.toNat)
    (room : Conversion.HasRoom source target w.toNat h.toNat size.width.toNat size.height.toNat) :
    ∃ output n converted, c.accept (.surface s) m = (.ok output, n) ∧
      Conversion.convert c.parameters planes source (Surface.wholeRect w h) target
        size.width.toNat size.height.toNat = .ok converted ∧
      n.Has output converted ∧ target.Laid size.width.toNat size.height.toNat converted ∧
      s.ref ≠ output.ref ∧ output.format = target ∧ output.width = size.width ∧
      output.height = size.height := by
  obtain ⟨converted, result, outLaid, accepted⟩ := accept_showing ready known targetKnown positive
    format_eq found crop_eq has laid wide high width_ok height_ok fits
  rw [if_pos room] at accepted
  refine ⟨_, _, converted, accepted, result, ?_, outLaid, ?_, ?_, ?_⟩
  · exact ((Media.has_makeSurface ..).setPlanes converted).setPts _ _
  · exact (Media.makeSurface_ne_of_some found memory target _ _ _).symm
  · exact Media.format_makeSurface ..
  · exact Media.size_makeSurface ..

theorem accept_tooLarge (large : ¬(target.Fits size.width.toNat size.height.toNat ∧
      Conversion.HasRoom source target w.toNat h.toNat size.width.toNat size.height.toNat)) :
    (c.accept (.surface s) m).1 = .error (.broken .tooLarge) := by
  by_cases fits : target.Fits size.width.toNat size.height.toNat
  · obtain ⟨_, -, -, accepted⟩ := accept_showing ready known targetKnown positive format_eq found
      crop_eq has laid wide high width_ok height_ok fits
    rw [if_neg fun room => large ⟨fits, room⟩] at accepted
    rw [accepted]
  · rw [accept_eq ready, if_neg (not_not.2 format_eq),
      SurfaceFormat.allocation_eq targetKnown positive.1 positive.2, if_neg fits]

end

end

end Converter

end VideoScaler
