import VideoScaler.Proofs.Dimensions.Default
import VideoScaler.Proofs.Filter.Samples
import VideoScaler.Proofs.Filter.Serving

/-! Frames that stay in host memory are scaled whenever there is room for them.

Once a link between two formats in host memory is accepted, a frame of the link that has its
samples can only fail for its size: the surface it is copied to is converted as a whole, and the
result has what its frame needs. This holds for all pairs of formats and sizes, odd ones included,
and for every frame after other frames, whether these were scaled or not. The link itself is
accepted also for sizes for which there are no arrays.
-/

set_option autoImplicit false

namespace VideoScaler

/-- What an output frame in host memory has: format, size and planes of the output link, and
the properties of the input frame, but for the color fields that are set. -/
structure Frame.ScaledFrom (config : ScaleConfig) (output : OutputLink) (out input : Frame) :
    Prop where
  format_eq : out.format = output.format
  width_eq : out.width = output.width
  height_eq : out.height = output.height
  payload_eq : out.payload = none
  planes : List.Forall₂ FramePlane.Tight
    (output.format.shapes output.width.toNat output.height.toNat) out.planes
  pts_eq : out.pts = input.pts
  metadata_eq : out.metadata = input.metadata
  range_eq : out.color.range =
    match config.range with
    | some range => range.colorRange
    | none => input.color.range
  space_eq : out.color.space =
    match config.profile with
    | some profile => profile.colorSpace
    | none => input.color.space
  primaries_eq : out.color.primaries =
    match config.primariesOverride with
    | some primaries => primaries
    | none => input.color.primaries
  transfer_eq : out.color.transfer =
    match config.transferOverride with
    | some transfer => transfer
    | none => input.color.transfer
  sar_eq : out.sar = input.sar.rescale ⟨input.width, input.height⟩ ⟨output.width, output.height⟩

theorem Agreement.toSurface_sampled {link : InputLink} {device : Option Device}
    {outFormat : PixelFormat} {setup : Setup} {output : OutputLink} {c : Converter} {input : Frame}
    (agreement : Agreement link device outFormat setup output c)
    (format_eq : input.format = setup.layout) (sampled : input.Sampled)
    (columns : 0 < input.width.toNat) (rows : 0 < input.height.toNat)
    (fits : (SurfaceFormat.ofPixelFormat input.format).Fits input.width.toNat input.height.toNat)
    (u : World) :
    ∃ s w₁ state, Bridge.toSurface setup.source.context input u = (.ok s, w₁) ∧
      s.format = .ofPixelFormat setup.layout ∧ w₁.media.surfaces.get? s.ref = some state ∧
      state.crop = Surface.wholeRect input.width input.height ∧
      w₁.media.Has s (Bridge.uploadedPlanes input) ∧
      (SurfaceFormat.ofPixelFormat setup.layout).Laid input.width.toNat input.height.toNat
        (Bridge.uploadedPlanes input) := by
  have known : SurfaceFormat.ofPixelFormat input.format ≠ .unknown := by
    rw [format_eq]
    exact agreement.readable
  obtain ⟨s, w₁, state, surface, source_eq, found, crop_eq, has⟩ :=
    Bridge.toSurface_sampled setup.source.context sampled known (ne_zero_of_toNat_pos columns)
      (ne_zero_of_toNat_pos rows) fits u
  have laid := Bridge.laid_uploadedPlanes sampled known
  rw [format_eq] at source_eq laid
  exact ⟨s, w₁, state, surface, source_eq, found, crop_eq, has, laid⟩

namespace ScaleFilter

variable {f g : ScaleFilter Converter} {link : InputLink} {outFormat : PixelFormat}
  {setup : Setup} {output : OutputLink} {c : Converter} {w v : World} {input frame : Frame}

theorem finishFrame_scaledFrom (config : ScaleConfig) (payload_eq : frame.payload = none)
    (planes : List.Forall₂ FramePlane.Tight
      (output.format.shapes output.width.toNat output.height.toNat) frame.planes) :
    (finishFrame config output input frame).ScaledFrom config output input where
  format_eq := rfl
  width_eq := rfl
  height_eq := rfl
  payload_eq := payload_eq
  planes := planes
  pts_eq := rfl
  metadata_eq := rfl
  range_eq := by
    simp only [finishFrame, ScaleConfig.overrideColor]
    cases config.range <;> rfl
  space_eq := by
    simp only [finishFrame, ScaleConfig.overrideColor]
    cases config.profile <;> rfl
  primaries_eq := by
    simp only [finishFrame, ScaleConfig.overrideColor]
    cases config.primariesOverride <;> rfl
  transfer_eq := by
    simp only [finishFrame, ScaleConfig.overrideColor]
    cases config.transferOverride <;> rfl
  sar_eq := rfl

theorem offered_of_checkFormats (offered : f.checkFormats link outFormat = .ok ()) :
    ∃ lists, f.queryFormats = .ok lists ∧ outFormat ∈ lists.output := by
  unfold checkFormats at offered
  obtain ⟨lists, negotiated, offered⟩ := bind_ok offered
  refine ⟨lists, negotiated, ?_⟩
  by_contra missing
  have unlisted : (!lists.output.contains outFormat) = true := by simpa using missing
  simp only [unlisted, if_true] at offered
  split at offered <;> cases offered

theorem device_eq_none_of_host (offered : f.checkFormats link outFormat = .ok ())
    (host : outFormat.isHardware = false) : f.device = none := by
  cases device_eq : f.device with
  | none => rfl
  | some device =>
    -- The formats on offer are then a single one, which is a format on a device.
    obtain ⟨lists, negotiated, listed⟩ := offered_of_checkFormats offered
    simp only [queryFormats, device_eq, FormatLists.negotiate] at negotiated
    cases kind : device.kind <;> rw [kind] at negotiated <;> cases negotiated <;>
      simp only [FormatLists.ofOutput, List.mem_singleton] at listed <;> rw [listed] at host <;>
        cases host

theorem yields_of_host (agreement : Agreement link f.device outFormat setup output c)
    (offered : f.checkFormats link outFormat = .ok ()) (host : outFormat.isHardware = false) :
    output.pool.Yields outFormat output.size := by
  have follows := agreement.follows
  rw [device_eq_none_of_host offered host] at follows
  rw [agreement.pool_eq]
  exact follows.yields

theorem layout_of_host (host : link.format.isHardware = false) : link.layout = link.format := by
  unfold InputLink.layout
  split
  · rw [host]
    rfl
  · rfl

section
variable (serves : f.Serves setup output c) {device : Option Device}
  (agreement : Agreement link device outFormat setup output c)
  (yields : output.pool.Yields outFormat output.size) (hostOut : outFormat.isHardware = false)
  (format_eq : input.format = setup.layout) (sampled : input.Sampled)
  (columns : 1 ≤ input.width.toNat ∧ input.width.toNat ≤ 2147483647)
  (rows : 1 ≤ input.height.toNat ∧ input.height.toNat ≤ 2147483647) (u : World)
include serves agreement yields hostOut format_eq sampled columns rows

theorem Serves.filterFrame_tooLarge
    (large : ¬input.HasRoom (.ofPixelFormat input.format) (.ofPixelFormat outFormat) output.size) :
    (f.filterFrame input u).1 = .error (.broken .tooLarge) := by
  unfold ScaleFilter.filterFrame
  rw [serves.convert_eq agreement.ready.pending_eq]
  by_cases fits : (SurfaceFormat.ofPixelFormat input.format).Fits input.width.toNat
      input.height.toNat
  · obtain ⟨s, w₁, state, surface, source_eq, found, crop_eq, has, laid⟩ :=
      agreement.toSurface_sampled format_eq sampled columns.1 rows.1 fits u
    have target_eq : output.pool.desc.swFormat = outFormat := yields.layout_eq hostOut
    have refused := Converter.accept_tooLarge agreement.ready agreement.readable agreement.writable
      ⟨yields.width_ne, yields.height_ne⟩ source_eq found crop_eq has laid (Nat.le_refl _)
      (Nat.le_refl _) columns rows fun room => large ⟨fun _ => fits, target_eq ▸ room.1, by
        rw [format_eq]
        exact target_eq ▸ room.2⟩
    rcases taken : c.accept (.surface s) w₁.media with ⟨result, m⟩
    obtain rfl : result = .error (.broken .tooLarge) := by rw [← refused, taken]
    simp only [surface, taken]
    rfl
  · rw [Bridge.toSurface_tooLarge _ (format_eq ▸ agreement.readable)
      (ne_zero_of_toNat_pos columns.1) (ne_zero_of_toNat_pos rows.1) fits sampled.payload_eq]

variable (room : input.HasRoom (.ofPixelFormat input.format) (.ofPixelFormat outFormat) output.size)
include room

/-- What a filter that serves a link makes of a frame with all samples, up to its last step: the
planes of the frame, converted as a whole. -/
theorem Serves.convert_planes :
    ∃ g frame u' converted,
      f.filterFrame input u = (.ok (finishFrame f.config output input frame), g, u') ∧
      frame.payload = none ∧ frame.backing = none ∧
      Conversion.convert c.parameters (Bridge.uploadedPlanes input) (.ofPixelFormat input.format)
        (Surface.wholeRect input.width input.height) (.ofPixelFormat outFormat)
        output.width.toNat output.height.toNat = .ok converted ∧
      List.Forall₂ Plane.Fills
        (output.format.shapes output.width.toNat output.height.toNat) converted ∧
      frame.planes = List.zipWith Bridge.downloaded
        (output.format.shapes output.width.toNat output.height.toNat) converted := by
  have target_eq : output.pool.desc.swFormat = output.pool.desc.format := by
    rw [yields.layout_eq hostOut, yields.format_eq]
  have host : output.pool.desc.format.isHardware = false := by rwa [yields.format_eq]
  have writable := agreement.writable
  obtain ⟨upload, fits, samples⟩ := room
  rw [format_eq] at samples
  rw [← yields.format_eq, ← target_eq] at fits samples
  -- To the surface,
  obtain ⟨s, w₁, state, surface, source_eq, found, crop_eq, has, laid⟩ :=
    agreement.toSurface_sampled format_eq sampled columns.1 rows.1 (upload sampled.payload_eq) u
  -- through the converter,
  obtain ⟨made, m, converted, taken, result, madeHas, madeLaid, other, madeFormat, madeWidth,
      madeHeight⟩ :=
    Converter.accept_inside agreement.ready agreement.readable writable
      ⟨yields.width_ne, yields.height_ne⟩ source_eq found crop_eq has laid (Nat.le_refl _)
      (Nat.le_refl _) columns rows fits samples
  -- and back: the layout of the result is the one that the pool hands out.
  rw [target_eq] at madeFormat madeLaid writable result fits
  have copied := Bridge.hostFrame_eq output.pool madeFormat (madeFormat ▸ writable)
    (madeHas.release other) (by rw [madeFormat, madeWidth, madeHeight]; exact madeLaid)
    (by rw [madeFormat, madeWidth, madeHeight]; exact fits)
  have framed := Bridge.toFrame_host host made { w₁ with media := m.release s }
  rw [copied] at framed
  obtain ⟨g, scaled⟩ := (serves.filterFrame_ok_iff agreement.ready.pending_eq).2
    ⟨s, w₁, made, m, _, _, surface, taken, framed, rfl, rfl⟩
  refine ⟨g, _, _, converted, scaled, rfl, rfl, ?_, ?_, ?_⟩
  · rw [format_eq, ← yields.format_eq]
    exact result
  · rw [SurfaceFormat.Laid, SurfaceFormat.shapes_ofPixelFormat writable] at madeLaid
    rw [agreement.format_eq]
    exact madeLaid
  · rw [agreement.format_eq, madeWidth, madeHeight]
    rfl

theorem Serves.convert_sampled :
    ∃ g frame u', f.filterFrame input u = (.ok (finishFrame f.config output input frame), g, u') ∧
      frame.payload = none ∧
      List.Forall₂ FramePlane.Tight
        (output.format.shapes output.width.toNat output.height.toNat) frame.planes := by
  obtain ⟨g, frame, u', converted, scaled, payload_eq, -, -, fills, planes_eq⟩ :=
    serves.convert_planes agreement yields hostOut format_eq sampled columns rows u room
  refine ⟨g, frame, u', scaled, payload_eq, ?_⟩
  rw [planes_eq]
  exact Bridge.tight_zipWith_downloaded fills.length_eq

end

/-- Between formats in host memory a frame that has its samples is scaled exactly if there is room
for its surface, for its result and for the samples in between. The output frame then has all that
the output link promises. -/
theorem filterFrame_scaledFrom
    (accepted : f.configOutput softwareRuntime link outFormat w = (.ok output, g, v))
    (hostIn : link.format.isHardware = false) (hostOut : outFormat.isHardware = false)
    (earlier : List (Frame × World)) (format_eq : input.format = link.format)
    (sampled : input.Sampled)
    (columns : 1 ≤ input.width.toNat ∧ input.width.toNat ≤ 2147483647)
    (rows : 1 ≤ input.height.toNat ∧ input.height.toNat ≤ 2147483647) (u : World) :
    (∃ out h u', (g.afterFrames earlier).filterFrame input u = (.ok out, h, u') ∧
      out.ScaledFrom f.config output input) ↔
      input.HasRoom (.ofPixelFormat input.format) (.ofPixelFormat outFormat) output.size := by
  obtain ⟨config_eq, offered, setup, c, serves, agreement⟩ := configOutput_ok accepted
  have yields := yields_of_host agreement offered hostOut
  obtain ⟨later, same⟩ := serves.afterFrames agreement.ready.pending_eq earlier
  have layout_eq : input.format = setup.layout := by
    rw [format_eq, agreement.layout_eq, layout_of_host hostIn]
  constructor
  · rintro ⟨out, h, u', scaled, -⟩
    by_contra large
    have refused :=
      later.filterFrame_tooLarge agreement yields hostOut layout_eq sampled columns rows u large
    rw [scaled] at refused
    cases refused
  · intro room
    obtain ⟨h, frame, u', scaled, payload_eq, planes⟩ :=
      later.convert_sampled agreement yields hostOut layout_eq sampled columns rows u room
    rw [same, config_eq] at scaled
    exact ⟨_, h, u', scaled, finishFrame_scaledFrom f.config payload_eq planes⟩

theorem scaledFrom_four_by_two :
    ∃ output g v out h u,
      (⟨.new, none, {}, none⟩ : ScaleFilter Converter).configOutput softwareRuntime
        { format := .yuv420p, width := 4, height := 2 } .bgra .empty = (.ok output, g, v) ∧
      (g.afterFrames [(.blank .yuv420p 3 1, .empty)]).filterFrame (.blank .yuv420p 3 1) .empty
        = (.ok out, h, u) ∧
      out.ScaledFrom {} output (.blank .yuv420p 3 1) := by
  have accepted : ∃ output g v, (⟨.new, none, {}, none⟩ : ScaleFilter Converter).configOutput
      softwareRuntime { format := .yuv420p, width := 4, height := 2 } .bgra .empty
        = (.ok output, g, v) ∧ output.size = ⟨4, 2⟩ :=
    configOutput_sized rfl rfl
      (plan_of_resolve (Dimensions.resolve_four_by_two Ratio.unset .yuv420p .yuv420p) rfl) rfl
  obtain ⟨output, g, v, accepted, size_eq⟩ := accepted
  -- The frame is smaller than the link, and its color samples are cut off at both ends.
  have sampled : (Frame.blank .yuv420p 3 1).Sampled := ⟨rfl, by decide, by decide⟩
  obtain ⟨out, h, u, scaled, scaledFrom⟩ := (filterFrame_scaledFrom accepted (by decide) (by decide)
    [(.blank .yuv420p 3 1, .empty)] rfl sampled (by decide) (by decide) .empty).2
      (by rw [size_eq]; decide)
  exact ⟨output, g, v, out, h, u, accepted, scaled, scaledFrom⟩

/-- One pixel is not scaled to the greatest size, which is accepted for the link. -/
theorem onePixel_not_scaled : ∃ (f g : ScaleFilter Converter) (output : OutputLink) (v : World),
    ScaleFilter.init Dimensions.greatestConfig none = .ok f ∧
    f.configOutput softwareRuntime { format := .bgra, width := 1, height := 1 } .bgra .empty
      = (.ok output, g, v) ∧
    output.size = ⟨2147483647, 2147483647⟩ ∧ (Frame.blank .bgra 1 1).Sampled ∧
    ¬∃ out h u', g.filterFrame (.blank .bgra 1 1) .empty = (.ok out, h, u') := by
  have accepted : ∃ output g v, (⟨.new, none, Dimensions.greatestConfig, none⟩ :
      ScaleFilter Converter).configOutput softwareRuntime
        { format := .bgra, width := 1, height := 1 } .bgra .empty = (.ok output, g, v) ∧
      output.size = ⟨2147483647, 2147483647⟩ :=
    configOutput_sized rfl rfl (plan_of_resolve (Dimensions.resolve_greatest _) rfl) rfl
  obtain ⟨output, g, v, accepted, size_eq⟩ := accepted
  have sampled : (Frame.blank .bgra 1 1).Sampled := ⟨rfl, by decide, by decide⟩
  obtain ⟨-, offered, setup, c, serves, agreement⟩ := configOutput_ok accepted
  have yields := yields_of_host agreement offered rfl
  have large : ¬(Frame.blank .bgra 1 1).HasRoom (.ofPixelFormat .bgra) (.ofPixelFormat .bgra)
      output.size := by
    rw [size_eq]
    decide
  refine ⟨_, g, output, v, ?_, accepted, size_eq, sampled, ?_⟩
  · show Except.map _ (Expression.parse "2147483647" >>= fun _ =>
      Expression.parse "2147483647" >>= fun _ => _) = _
    rw [Dimensions.parse_greatestLength]
    rfl
  · rintro ⟨out, h, u', scaled⟩
    have refused := serves.filterFrame_tooLarge agreement yields rfl agreement.layout_eq.symm
      sampled (by decide) (by decide) .empty large
    rw [scaled] at refused
    cases refused

end ScaleFilter

end VideoScaler
