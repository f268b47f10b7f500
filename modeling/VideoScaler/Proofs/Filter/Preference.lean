import VideoScaler.Proofs.Conversion.Planewise
import VideoScaler.Proofs.Dimensions.Bounds
import VideoScaler.Proofs.Dimensions.Default
import VideoScaler.Proofs.Filter.Layout

/-! Links that get the output which is preferred for them.

What is taken in and handed out stands in lists, and what a converter works with follows from the
layouts of surfaces. The preferred output is always in its list, and everything is in order for it
but the layout: of those that the lists and the configuration let through, one is that of no
surface.
-/

set_option autoImplicit false

namespace VideoScaler

theorem ScaleConfig.isHardware_format {c : ScaleConfig} (valid : c.validate = .ok ())
    {format : PixelFormat} (asked : c.format = some format) : format.isHardware = false := by
  simp only [validate, asked, bind, Except.bind] at valid
  split at valid
  · cases valid
  split at valid
  · cases valid
  split at valid
  · cases valid
  · by_contra hardware
    rw [if_pos (Bool.of_not_eq_false hardware)] at valid
    cases valid

theorem PixelFormat.ofPixelFormat_eq_unknown_iff {f : PixelFormat} (host : f.isHardware = false) :
    SurfaceFormat.ofPixelFormat f = .unknown ↔ f = .yuv420p10 := by
  cases f <;> revert host <;> decide

namespace Dimensions

theorem toInt32_pos {n : UInt32} (range : 1 ≤ n.toNat ∧ n.toNat ≤ 2147483647) :
    0 < n.toInt32 := by
  rw [Int32.lt_iff_toInt_lt, Conversion.toInt_toInt32 range.2]
  exact Int.natCast_pos.2 range.1

theorem toInt32_pos_of_isLength {n : Int64} (length : isLength n = true) :
    0 < n.toUInt64.toUInt32.toInt32 := by
  have value := toNat_narrow length
  obtain ⟨low, high⟩ := isLength_iff.1 length
  exact toInt32_pos ⟨by omega, by omega⟩

theorem ne_zero_of_toInt32_pos {n : UInt32} (positive : 0 < n.toInt32) : n ≠ 0 := by
  rintro rfl
  exact absurd positive (by decide)

theorem toInt32_pos_of_resolve {config : ScaleConfig} {input : Input} {size : Resolution}
    (resolved : resolve config input = .ok size) :
    0 < size.width.toInt32 ∧ 0 < size.height.toInt32 := by
  obtain ⟨_, _, _, _, -, -, lengthW, lengthH, rfl⟩ := exists_of_resolve resolved
  exact ⟨toInt32_pos_of_isLength lengthW, toInt32_pos_of_isLength lengthH⟩

end Dimensions

/-! ### The converter -/

namespace Converter

theorem applySettings_accepted {settings : List (String × Variant)}
    (accepted : ∀ entry ∈ settings, accepts entry.1 entry.2 = true) (c : Converter) :
    ∃ properties, Scaler.applySettings c settings = (.ok (), { c with properties }) := by
  induction settings generalizing c with
  | nil => exact ⟨c.properties, rfl⟩
  | cons entry settings ih =>
    obtain ⟨first, rest⟩ := List.forall_mem_cons.1 accepted
    obtain ⟨properties, applied⟩ := ih rest
      { c with properties := entry :: c.properties.filter fun other => other.1 ≠ entry.1 }
    refine ⟨properties, ?_⟩
    have set : Component.setProperty c entry.1 entry.2 = (.ok (), { c with
        properties := entry :: c.properties.filter fun other => other.1 ≠ entry.1 }) := if_pos first
    simp only [Scaler.applySettings, set, applied]

theorem accepts_settings (config : ScaleConfig) (format : SurfaceFormat) {size : Resolution}
    (columns : 0 < size.width.toInt32) (rows : 0 < size.height.toInt32) :
    ∀ entry ∈ Scaler.settings config format size, accepts entry.1 entry.2 = true := by
  simp only [Scaler.settings]
  cases config.profileProperty? <;> cases config.range <;> cases config.primariesOverride <;>
    cases config.transferOverride <;>
      simp [accepts, Variant.size?, columns, rows, Property.outputFormat, Property.outputSize,
        Property.scaleType, Property.colorProfile, Property.outputColorRange,
        Property.outputPrimaries, Property.outputTransfer]

theorem prepare_new_fst {settings : List (String × Variant)}
    (accepted : ∀ entry ∈ settings, accepts entry.1 entry.2 = true) (memory : MemoryType)
    {source : SurfaceFormat} (known : source ≠ .unknown) {size : Resolution}
    (columns : 0 < size.width.toInt32) (rows : 0 < size.height.toInt32) :
    (Scaler.prepare (new memory) settings source size).1 = .ok () := by
  obtain ⟨properties, applied⟩ := applySettings_accepted accepted (new memory)
  have positive : ¬(size.width.toInt32 ≤ 0 ∨ size.height.toInt32 ≤ 0) := by
    simp only [not_or, Int32.not_le]
    exact ⟨columns, rows⟩
  have started : Component.init ({ new memory with properties } : Converter) source
      size.width.toInt32 size.height.toInt32 = (.ok (), { new memory with
        properties, input := some (source, size.width.toInt32, size.height.toInt32) }) := by
    show init _ _ _ _ = _
    rw [init, if_neg (by simp [new]), if_neg known, if_neg positive]
    rfl
  simp only [Scaler.prepare, applied, started]

theorem configure_new_fst (context : DeviceContext) (outFormat inFormat : PixelFormat)
    {outSize inSize : Resolution} (config : ScaleConfig) (m : Media)
    (outPositive : 0 < outSize.width.toInt32 ∧ 0 < outSize.height.toInt32)
    (inPositive : 0 < inSize.width.toInt32 ∧ 0 < inSize.height.toInt32) :
    (Scaler.new.configure softwareRuntime context outFormat outSize config inFormat inSize m).1 =
      if SurfaceFormat.ofPixelFormat outFormat = .unknown then
        .error (.config (.converterOutput outFormat))
      else if SurfaceFormat.ofPixelFormat inFormat = .unknown then
        .error (.config (.converterInput inFormat))
      else .ok () := by
  have idle : ¬((Scaler.new : Scaler Converter).state ≠ .uninitialized) := not_not.2 rfl
  have created : context.createComponent softwareRuntime converterName =
      .ok (new context.memory) := rfl
  unfold Scaler.configure
  rw [if_neg idle, created]
  split
  · rfl
  split
  · rfl
  case isFalse readable =>
    have prepared := prepare_new_fst
      (accepts_settings config (.ofPixelFormat outFormat) outPositive.1 outPositive.2)
      context.memory readable inPositive.1 inPositive.2
    simp only
    generalize Scaler.prepare (new context.memory)
      (Scaler.settings config (.ofPixelFormat outFormat) outSize)
      (.ofPixelFormat inFormat) inSize = result at prepared ⊢
    obtain ⟨_, c⟩ := result
    obtain rfl : _ = Except.ok () := prepared
    rfl

end Converter

/-! ### The setup -/

namespace Setup

variable {userFormat : Option PixelFormat} {layout outFormat : PixelFormat} {link : InputLink}
  {size : Resolution}

/-- Frames in host memory have the layout asked for, and all others leave on a device. -/
def preferred (asked : PixelFormat) : PixelFormat :=
  if FormatLists.outputFormats.contains asked then asked else .amf

theorem preferred_mem (asked : PixelFormat) : preferred asked ∈ FormatLists.outputFormats := by
  cases asked <;> decide

theorem poolDesc_preferred (host : (userFormat.getD layout).isHardware = false)
    (width height : UInt32) :
    poolDesc ⟨preferred (userFormat.getD layout), layout, width, height⟩ userFormat =
      .ok ⟨preferred (userFormat.getD layout), userFormat.getD layout, width, height⟩ := by
  by_cases listed : FormatLists.outputFormats.contains (userFormat.getD layout) = true
  · have agrees : ¬(userFormat.isSome = true ∧ userFormat.getD layout ≠ userFormat.getD layout) :=
      fun differ => differ.2 rfl
    simp only [poolDesc, preferred, if_pos listed, host, Bool.false_eq_true, if_false,
      if_neg agrees]
  · simp only [poolDesc, preferred, if_neg listed, PixelFormat.isHardware, if_true]

theorem configure_preferred (plain : link.pool = none) (linkHost : link.format.isHardware = false)
    (host : (userFormat.getD link.format).isHardware = false) (columns : size.width ≠ 0)
    (rows : size.height ≠ 0) (w : World) :
    ∃ source v, configure softwareRuntime link none (preferred (userFormat.getD link.format)) size
        userFormat w = .ok (⟨source, link.format⟩, v) ∧
      source.outputPool.desc =
        ⟨preferred (userFormat.getD link.format), userFormat.getD link.format, size.width,
          size.height⟩ := by
  let desc : PoolDesc := ⟨preferred (userFormat.getD link.format), userFormat.getD link.format,
    size.width, size.height⟩
  let context : DeviceContext := ⟨"software", .host⟩
  have described : poolDesc ⟨preferred (userFormat.getD link.format), link.format, size.width,
      size.height⟩ userFormat = .ok desc := poolDesc_preferred host ..
  have sized : ¬(desc.width = 0 ∨ desc.height = 0) := fun empty => empty.elim columns rows
  have layout : ¬desc.swFormat.isHardware = true := Bool.eq_false_iff.1 host
  obtain ⟨output, v, added, desc_eq⟩ : ∃ output v,
      w.addPool (.accelerator context) desc = .ok (output, v) ∧ output.desc = desc :=
    ⟨_, _, by rw [World.addPool, if_neg sized, if_neg layout], rfl⟩
  have created : DeviceContext.create softwareRuntime = .ok context := rfl
  have chosen : onNewContext softwareRuntime link.format (preferred (userFormat.getD link.format))
      size userFormat w = .ok (.standalone context output, v) := by
    simp only [onNewContext, created, described, added, bind, Except.bind, pure, Except.pure]
  have layout_eq : link.layout = link.format := by
    simp only [InputLink.layout, plain]
  refine ⟨.standalone context output, v, ?_, desc_eq⟩
  simp only [configure, plain, linkHost, chosen, layout_eq, bind, Except.bind, pure, Except.pure,
    Bool.false_eq_true, false_and, if_false]

end Setup

/-! ### The filter -/

namespace ScaleFilter

variable {f : ScaleFilter Converter} {link : InputLink} {outFormat : PixelFormat}
  {size : Resolution} {setup : Setup} {w v : World}

theorem configure_fst_of_plan
    (planned : f.plan softwareRuntime link outFormat w = .ok ((size, setup), v)) :
    (f.configure softwareRuntime link outFormat w).1 =
      (Scaler.new.configure softwareRuntime setup.source.context
        setup.source.outputPool.desc.swFormat size f.config setup.layout link.size
        (f.scaler.terminate v.media).2).1.map fun _ =>
          ⟨setup.source.outputPool.desc.format, size.width, size.height,
            link.sar.rescale link.size size, setup.source.outputPool⟩ := by
  unfold configure
  simp only [planned]
  split
  all_goals
    rename_i result
    rw [result]
    rfl

/-- An earlier setup is given up first, which has no part in the result. -/
theorem configOutput_fst_of_offered (offered : f.checkFormats link outFormat = .ok ()) (w : World) :
    ∃ (g : ScaleFilter Converter) (v : World), g.config = f.config ∧ g.device = f.device ∧
      (f.configOutput softwareRuntime link outFormat w).1 =
        (g.configure softwareRuntime link outFormat v).1 := by
  unfold configOutput
  simp only [offered]
  split
  · exact ⟨(f.uninit w).1, (f.uninit w).2, rfl, rfl, rfl⟩
  · exact ⟨f, w, rfl, rfl, rfl⟩

section
variable (unbound : f.device = none)
include unbound

theorem preferredOutput_host (host : link.format.isHardware = false) :
    f.preferredOutput link = .ok (Setup.preferred (f.config.format.getD link.format)) := by
  simp only [preferredOutput, queryFormats, unbound, FormatLists.negotiate, FormatLists.ofOutput,
    Option.isSome_none, host, Bool.false_eq_true, if_false, bind, Except.bind, pure, Except.pure,
    Setup.preferred]

theorem output_of_queryFormats {lists : FormatLists} (negotiated : f.queryFormats = .ok lists) :
    lists.output = FormatLists.outputFormats := by
  simp only [queryFormats, unbound, FormatLists.negotiate] at negotiated
  cases negotiated
  rfl

end

theorem checkFormats_of_mem {lists : FormatLists} (negotiated : f.queryFormats = .ok lists)
    (taken : link.format ∈ lists.input) (handed : outFormat ∈ lists.output) :
    f.checkFormats link outFormat = .ok () := by
  simp [checkFormats, negotiated, bind, Except.bind, pure, Except.pure, taken, handed]

section
variable (valid : f.config.validate = .ok ()) (unbound : f.device = none) {lists : FormatLists}
  (negotiated : f.queryFormats = .ok lists) (listed : link.format ∈ lists.input)
  (host : link.format.isHardware = false)
include unbound negotiated

theorem handed_preferred (asked : PixelFormat) : Setup.preferred asked ∈ lists.output := by
  rw [output_of_queryFormats unbound negotiated]
  exact Setup.preferred_mem asked

include listed

theorem configOutput_unresolved {e : Error}
    (refused : Dimensions.resolve f.config (f.dimensions link) = .error e) (w : World) :
    (f.configOutput softwareRuntime link (Setup.preferred (f.config.format.getD link.format)) w).1
      = .error e := by
  obtain ⟨g, v, config_eq, -, result_eq⟩ := configOutput_fst_of_offered
    (checkFormats_of_mem negotiated listed (handed_preferred unbound negotiated _)) w
  have refused : Dimensions.resolve g.config (g.dimensions link) = .error e := by
    rwa [dimensions, config_eq]
  rw [result_eq]
  simp only [configure, plan, refused, bind, Except.bind]

include valid host

theorem configOutput_resolved (plain : link.pool = none)
    (columns : 1 ≤ link.width.toNat ∧ link.width.toNat ≤ 2147483647)
    (rows : 1 ≤ link.height.toNat ∧ link.height.toNat ≤ 2147483647)
    (resolved : Dimensions.resolve f.config (f.dimensions link) = .ok size) (w : World) :
    let asked := f.config.format.getD link.format
    ∃ pool : FramePool,
      pool.desc = ⟨Setup.preferred asked, asked, size.width, size.height⟩ ∧
      (f.configOutput softwareRuntime link (Setup.preferred asked) w).1 =
        if asked = .yuv420p10 then .error (.config (.converterOutput asked))
        else if link.format = .yuv420p10 then .error (.config (.converterInput link.format))
        else .ok ⟨Setup.preferred asked, size.width, size.height,
          link.sar.rescale link.size size, pool⟩ := by
  intro asked
  obtain ⟨g, v, config_eq, device_eq, result_eq⟩ := configOutput_fst_of_offered
    (checkFormats_of_mem negotiated listed (handed_preferred unbound negotiated asked)) w
  have askedHost : asked.isHardware = false := by
    cases format : f.config.format with
    | none => simpa [asked, format] using host
    | some wanted => simpa [asked, format] using ScaleConfig.isHardware_format valid format
  have outPositive := Dimensions.toInt32_pos_of_resolve resolved
  have inPositive : 0 < link.size.width.toInt32 ∧ 0 < link.size.height.toInt32 :=
    ⟨Dimensions.toInt32_pos columns, Dimensions.toInt32_pos rows⟩
  obtain ⟨source, u, chosen, desc_eq⟩ :=
    Setup.configure_preferred plain host askedHost (Dimensions.ne_zero_of_toInt32_pos outPositive.1)
      (Dimensions.ne_zero_of_toInt32_pos outPositive.2) v
  have planned : g.plan softwareRuntime link (Setup.preferred asked) v =
      .ok ((size, ⟨source, link.format⟩), u) := by
    refine plan_of_resolve ?_ ?_
    · rw [dimensions, config_eq]
      exact resolved
    · rw [device_eq, unbound, config_eq]
      exact chosen
  have layout_eq : source.outputPool.desc.swFormat = asked := by rw [desc_eq]
  have format_eq : source.outputPool.desc.format = Setup.preferred asked := by rw [desc_eq]
  refine ⟨source.outputPool, desc_eq, ?_⟩
  rw [result_eq, configure_fst_of_plan planned, layout_eq, format_eq,
    Converter.configure_new_fst _ _ _ _ _ outPositive inPositive]
  simp only [PixelFormat.ofPixelFormat_eq_unknown_iff askedHost,
    PixelFormat.ofPixelFormat_eq_unknown_iff host]
  split
  · rfl
  split
  · rfl
  · rfl

end

/-- For every link in host memory whose format is taken in, an output is preferred that is handed
out. A size that cannot be resolved is refused; nothing else is, but the one layout that no surface
has. -/
theorem preferred_accepted_iff (valid : f.config.validate = .ok ()) (unbound : f.device = none)
    {lists : FormatLists} (negotiated : f.queryFormats = .ok lists)
    (listed : link.format ∈ lists.input) (host : link.format.isHardware = false)
    (plain : link.pool = none)
    (columns : 1 ≤ link.width.toNat ∧ link.width.toNat ≤ 2147483647)
    (rows : 1 ≤ link.height.toNat ∧ link.height.toNat ≤ 2147483647) (w : World) :
    ∃ outFormat, f.preferredOutput link = .ok outFormat ∧ outFormat ∈ lists.output ∧
      let result := (f.configOutput softwareRuntime link outFormat w).1
      (∀ e, Dimensions.resolve f.config (f.dimensions link) = .error e → result = .error e) ∧
      ∀ size, Dimensions.resolve f.config (f.dimensions link) = .ok size →
        ((∃ output, result = .ok output) ↔
          link.format ≠ .yuv420p10 ∧ f.config.format ≠ some .yuv420p10) ∧
        (∀ output, result = .ok output → output.format = outFormat ∧ output.size = size ∧
          output.pool.desc.swFormat = f.config.format.getD link.format) ∧
        ∀ e, result = .error e →
          e = .config (.converterOutput .yuv420p10) ∨ e = .config (.converterInput .yuv420p10) := by
  refine ⟨_, preferredOutput_host unbound host, handed_preferred unbound negotiated _,
    fun e refused => configOutput_unresolved unbound negotiated listed refused w,
    fun size resolved => ?_⟩
  obtain ⟨pool, desc_eq, result_eq⟩ :=
    configOutput_resolved valid unbound negotiated listed host plain columns rows resolved w
  rw [result_eq]
  -- The layout asked for is that of the link, unless the configuration names one.
  have usable_iff : link.format ≠ .yuv420p10 ∧ f.config.format ≠ some .yuv420p10 ↔
      f.config.format.getD link.format ≠ .yuv420p10 ∧ link.format ≠ .yuv420p10 := by
    cases f.config.format <;> simp [and_comm]
  rw [usable_iff]
  by_cases unwritable : f.config.format.getD link.format = .yuv420p10
  · rw [if_pos unwritable]
    exact ⟨by simp [unwritable], by simp, by simp [unwritable, eq_comm]⟩
  rw [if_neg unwritable]
  by_cases unreadable : link.format = .yuv420p10
  · rw [if_pos unreadable]
    exact ⟨by simp [unreadable], by simp, by simp [unreadable, eq_comm]⟩
  rw [if_neg unreadable]
  refine ⟨by simp [unwritable, unreadable], fun output accepted => ?_, by simp⟩
  cases accepted
  rw [desc_eq]
  exact ⟨rfl, rfl, rfl⟩

def plainFilter : ScaleFilter Converter :=
  ⟨.new, none, {}, none⟩

def smallLink (format : PixelFormat) : InputLink :=
  { format, width := 4, height := 2 }

theorem resolve_smallLink (format : PixelFormat) :
    Dimensions.resolve plainFilter.config (plainFilter.dimensions (smallLink format)) =
      .ok ⟨4, 2⟩ :=
  Dimensions.resolve_four_by_two ..

theorem p010_accepted : ∃ outFormat output,
    plainFilter.preferredOutput (smallLink .p010) = .ok outFormat ∧
    (plainFilter.configOutput softwareRuntime (smallLink .p010) outFormat .empty).1 =
      .ok output := by
  have valid : plainFilter.config.validate = .ok () := Dimensions.validate_default
  have negotiated : plainFilter.queryFormats =
      .ok (FormatLists.ofOutput FormatLists.outputFormats) := rfl
  have listed : (smallLink .p010).format ∈
      (FormatLists.ofOutput FormatLists.outputFormats).input := by decide
  obtain ⟨outFormat, preferred, -, -, decided⟩ := preferred_accepted_iff valid rfl negotiated listed
    rfl rfl (by decide) (by decide) .empty
  obtain ⟨output, accepted⟩ := (decided ⟨4, 2⟩ (resolve_smallLink .p010)).1.2 (by decide)
  exact ⟨outFormat, output, preferred, accepted⟩

/-- Frames in `yuv420p10` are taken in as well, but there is no converter for them. -/
theorem yuv420p10_refused :
    ScaleFilter.init {} none = .ok plainFilter ∧
    (∃ lists, plainFilter.queryFormats = .ok lists ∧ .yuv420p10 ∈ lists.input) ∧
    Dimensions.resolve plainFilter.config (plainFilter.dimensions (smallLink .yuv420p10)) =
      .ok ⟨4, 2⟩ ∧
    plainFilter.preferredOutput (smallLink .yuv420p10) = .ok .amf ∧
    (plainFilter.configOutput softwareRuntime (smallLink .yuv420p10) .amf .empty).1 =
      .error (.config (.converterOutput .yuv420p10)) := by
  have valid : plainFilter.config.validate = .ok () := Dimensions.validate_default
  have negotiated : plainFilter.queryFormats =
      .ok (FormatLists.ofOutput FormatLists.outputFormats) := rfl
  have listed : (smallLink .yuv420p10).format ∈
      (FormatLists.ofOutput FormatLists.outputFormats).input := by decide
  obtain ⟨_, -, refused⟩ := configOutput_resolved valid rfl negotiated listed rfl rfl (by decide)
    (by decide) (resolve_smallLink .yuv420p10) .empty
  refine ⟨?_, ⟨_, negotiated, listed⟩, resolve_smallLink _, rfl, refused⟩
  rw [ScaleFilter.init, Dimensions.validate_default]
  rfl

end ScaleFilter

end VideoScaler
