import Mathlib
import VideoScaler.CommandLine.Basic
import VideoScaler.Proofs.CommandLine.Filtering

/-! Scaling one file into another.

When the settings go together and both files can be opened, nothing can go wrong any more but that
a frame is too large for an array. What is in the output otherwise are the samples of all whole
frames of the input, scaled one by one.
-/

set_option autoImplicit false

namespace VideoScaler.CommandLine

namespace Files

variable {files : Files} {path other name : String} {bytes : Bytes}

theorem lookup_put : (files.put name bytes).lookup name = some bytes := by
  simp [put]

theorem put_put (earlier : Bytes) :
    (files.put name earlier).put name bytes = files.put name bytes := by
  simp [put, List.filter_filter]

theorem save_save (earlier : Bytes) :
    (files.save path earlier).save path bytes = files.save path bytes := by
  cases leads : Place.ofPath path with
  | file name => simp only [save, leads, put_put]
  | _ => simp only [save, leads]

theorem load_save (leads : Place.ofPath path = .file name) :
    (files.save path bytes).load path = some bytes := by
  simp only [save, load, leads, lookup_put]

theorem load_save_of_ne (elsewhere : Place.ofPath other ≠ Place.ofPath path) :
    (files.save path bytes).load other = files.load other := by
  unfold save
  split
  case h_2 => rfl
  case h_1 name written =>
    unfold load
    split
    case h_1 name' read =>
      rw [written, read] at elsewhere
      have ne : name' ≠ name := fun same => elsewhere (congrArg Place.file same)
      rw [put, List.lookup_cons, beq_false_of_ne ne]
      exact lookup_without files ne
    all_goals rfl

end Files

def ScaleRequest.source (request : ScaleRequest) (files : Files) : Bytes :=
  ((files.save request.output #[]).load request.input).getD #[]

variable {request : ScaleRequest} {files : Files} {job : Job}

theorem run_baseConfig (config : Option String) :
    (baseConfig Files.disk config).run files
      = (((baseConfig Files.disk config).run files).1, files) := by
  cases config with
  | none => rfl
  | some path =>
    simp only [baseConfig, Files.disk, StateT.run_bind, StateT.run_get, pure_bind, StateT.run_pure]
    split <;> rfl

theorem run_scale
    (planned : (((baseConfig Files.disk request.config).run files).1.bind fun config =>
      Job.plan config request) = .ok job) :
    (scale Files.disk request).run files = (transfer Files.disk job request).run files := by
  rw [scale, StateT.run_bind, run_baseConfig]
  refine (pure_bind (_, files) _).trans ?_
  rw [planned]

theorem run_transfer (readable : files.canOpen request.input = true)
    (writable : Files.canClear request.output = true) {frames : Nat}
    (ran : (job.run (request.source files) request.frames).frames = .ok frames) :
    (transfer Files.disk job request).run files
      = (.success (job.header ::
          (job.run (request.source files) request.frames).lines frames),
        files.save request.output (job.run (request.source files) request.frames).output) := by
  unfold ScaleRequest.source at ran ⊢
  simp only [transfer, Files.disk, bind_pure_comp, Bool.not_eq_eq_eq_not, Bool.not_true, writable,
    bind_map_left, Bool.true_eq_false, if_false, StateT.run_bind, StateT.run_get, pure_bind,
    readable, StateT.run_modify, ran, Files.save_save, StateT.run_pure]
  rfl

theorem run_transfer_broken (readable : files.canOpen request.input = true)
    (writable : Files.canClear request.output = true) {breach : Breach}
    (ran : (job.run (request.source files) request.frames).frames = .error (.broken breach)) :
    (transfer Files.disk job request).run files
      = (.broken [job.header],
        files.save request.output (job.run (request.source files) request.frames).output) := by
  unfold ScaleRequest.source at ran ⊢
  simp only [transfer, Files.disk, bind_pure_comp, Bool.not_eq_eq_eq_not, Bool.not_true, writable,
    bind_map_left, Bool.true_eq_false, if_false, StateT.run_bind, StateT.run_get, pure_bind,
    readable, StateT.run_modify, ran, Files.save_save, StateT.run_pure]
  rfl

def ScaleRequest.video (request : ScaleRequest) (job : Job) (files : Files) : RawVideo :=
  job.video (request.source files) request.frames

theorem ready_of_plan {config : ScaleConfig} (planned : Job.plan config request = .ok job) :
    ∃ link outFormat, job.Ready link outFormat := by
  unfold Job.plan at planned
  obtain ⟨set, -, planned⟩ := bind_ok planned
  obtain ⟨size, -, planned⟩ := bind_ok planned
  obtain ⟨format, -, planned⟩ := bind_ok planned
  exact Job.ready_of_start planned

/-- Whatever the input is, if there is room for its frames and for what is made of them, the output
is made of its whole frames, up to the limit: of the samples of what the filter makes of each, in
order. -/
theorem scale_writes
    (planned : (((baseConfig Files.disk request.config).run files).1.bind fun config =>
      Job.plan config request) = .ok job)
    (readable : files.canOpen request.input = true)
    (writable : Files.canClear request.output = true) :
    0 < (request.video job files).frameBytes ∧
    (∀ bytes, files.load request.input = some bytes →
      Place.ofPath request.input ≠ Place.ofPath request.output →
        (request.video job files).data = bytes) ∧
    (job.HasRoom (request.video job files) →
      ∃ (frames outs : List Frame) (pieces : List Bytes) (written : Bytes),
        (request.video job files).Reads frames ∧
        (List.range (request.video job files).count).map (request.video job files).frame?
          = frames.map some ∧
        List.Forall₂ job.Makes frames outs ∧ outs.map Frame.packed? = pieces.map some ∧
        written = pieces.foldl (· ++ ·) #[] ∧
        written.size = (request.video job files).count * job.outputBytes ∧
        (scale Files.disk request).run files =
          (.success [job.header, "", "Results:",
              "  Frames: " ++ toString (request.video job files).count,
              "  Surfaces created: " ++ toString (2 * (request.video job files).count),
              "  Surfaces live: 0"],
            files.save request.output written) ∧
        ∀ name, Place.ofPath request.output = .file name →
          (files.save request.output written).load request.output = some written) := by
  obtain ⟨config, -, planned'⟩ := bind_ok planned
  obtain ⟨link, outFormat, ready⟩ := ready_of_plan planned'
  refine ⟨ready.frameBytes_pos _ _, fun bytes content elsewhere => ?_, fun room => ?_⟩
  · show request.source files = bytes
    rw [ScaleRequest.source, Files.load_save_of_ne elsewhere, content, Option.getD_some]
  · have none : "  Surfaces live: " ++ toString 0 = "  Surfaces live: 0" := by decide
    obtain ⟨frames, outs, pieces, reads, shown, made, packed, size, ran⟩ := ready.run_eq room
    refine ⟨frames, outs, pieces, _, reads, shown, made, packed, rfl, size, ?_,
      fun name leads => Files.load_save leads⟩
    rw [run_scale planned, run_transfer readable writable (congrArg JobResult.frames ran), ran]
    simp only [JobResult.lines, none]
    rfl

def copyRequest : ScaleRequest where
  input := "in"
  output := "out"
  size := "4x2"
  pixelFormat := "yuv420p"
  config := none
  settings := []
  frames := none

theorem plan_of_accepted {size : Resolution} {format : PixelFormat} {output : OutputLink}
    {filter : ScaleFilter Converter} {world : World} (unset : request.settings = [])
    (sized : Resolution.parse request.size = .ok size)
    (layout : PixelFormat.parse request.pixelFormat = .ok format)
    (chosen : Job.outputFormat {} format = .ok format)
    (accepted : (⟨.new, none, {}, none⟩ : ScaleFilter Converter).configOutput softwareRuntime
      { format, width := size.width, height := size.height } format .empty
        = (.ok output, filter, world)) :
    Job.plan {} request = .ok ⟨format, size, filter, output, world⟩ := by
  rw [Job.plan, unset, sized, layout]
  exact Job.start_of_accepted chosen Dimensions.validate_default accepted

theorem scale_two_frames : ∃ (job : Job) (written : Bytes), Job.plan {} copyRequest = .ok job ∧
    (scale Files.disk copyRequest).run [("in", Array.replicate 25 0)] =
      (.success [job.header, "", "Results:", "  Frames: 2", "  Surfaces created: 4",
          "  Surfaces live: 0"],
        Files.save [("in", Array.replicate 25 0)] "out" written) ∧
    written.size = 2 * job.outputBytes := by
  obtain ⟨output, filter, world, accepted, outSize_eq⟩ : ∃ output g v,
      (⟨.new, none, {}, none⟩ : ScaleFilter Converter).configOutput softwareRuntime
        { format := .yuv420p, width := 4, height := 2 } .yuv420p .empty = (.ok output, g, v) ∧
      output.size = ⟨4, 2⟩ :=
    ScaleFilter.configOutput_sized rfl rfl (ScaleFilter.plan_of_resolve
      (Dimensions.resolve_four_by_two Ratio.unset .yuv420p .yuv420p) rfl) rfl
  let job : Job := ⟨.yuv420p, ⟨4, 2⟩, filter, output, world⟩
  have planned : Job.plan {} copyRequest = .ok job :=
    plan_of_accepted rfl (by rfl) (by rfl) rfl accepted
  have source : Place.ofPath copyRequest.input = .file "in" := by cbv
  have target : Place.ofPath copyRequest.output = .file "out" := by cbv
  have content : Files.load [("in", Array.replicate 25 0)] copyRequest.input
      = some (Array.replicate 25 0) := by
    simp only [Files.load, source]
    rfl
  obtain ⟨-, read, wrote⟩ :=
    @scale_writes copyRequest [("in", Array.replicate 25 0)] job planned
      (by simp only [Files.canOpen, source]; rfl) (by simp only [Files.canClear, target])
  have frameBytes_eq : (copyRequest.video job [("in", Array.replicate 25 0)]).frameBytes = 12 := by
    show Format.packedBytes (PixelFormat.yuv420p.shapes (4 : UInt32).toNat (2 : UInt32).toNat) = 12
    rfl
  have room : job.HasRoom (copyRequest.video job [("in", Array.replicate 25 0)]) := by
    obtain ⟨-, offered, setup, c, -, agreement⟩ := ScaleFilter.configOutput_ok accepted
    have outFormat_eq : output.format = .yuv420p :=
      agreement.format_eq.trans (ScaleFilter.yields_of_host agreement offered rfl).format_eq
    refine ⟨.inr (by rw [frameBytes_eq]; decide), fun _ => ?_⟩
    show Frame.HasRoom { format := .yuv420p, width := 4, height := 2 } (.ofPixelFormat .yuv420p)
      (.ofPixelFormat output.format) output.size
    rw [outFormat_eq, outSize_eq]
    decide
  obtain ⟨frames, outs, pieces, written, -, -, -, -, -, size, ran, -⟩ := wrote room
  have data_eq := read _ content (by rw [source, target]; decide)
  have count_eq : (copyRequest.video job [("in", Array.replicate 25 0)]).count = 2 := by
    show (copyRequest.video job _).data.size / _ = 2
    rw [data_eq, frameBytes_eq]
    rfl
  rw [count_eq] at size ran
  exact ⟨job, written, planned, ran, size⟩

def greatestRequest : ScaleRequest :=
  { copyRequest with size := "2147483647x2147483647", pixelFormat := "bgra" }

/-- The settings go together and the file has no frame, but no array can be made to read one. -/
theorem scale_no_frames_broken : ∃ job, Job.plan {} greatestRequest = .ok job ∧
    (greatestRequest.video job [("in", #[])]).count = 0 ∧
    (scale Files.disk greatestRequest).run [("in", #[])] =
      (.broken [job.header], Files.save [("in", #[])] "out" #[]) := by
  have value (name : Expression) : Dimensions.toInteger name (2147483647 : UInt32).toFloat =
      .ok (2147483647 : UInt32).toUInt64.toInt64 :=
    Dimensions.toInteger_ok (n := 2147483647) (by decide +kernel) (by decide +kernel)
  obtain ⟨output, filter, world, accepted⟩ : ∃ output g v,
      (⟨.new, none, {}, none⟩ : ScaleFilter Converter).configOutput softwareRuntime
        { format := .bgra, width := 2147483647, height := 2147483647 } .bgra .empty
          = (.ok output, g, v) :=
    ScaleFilter.configOutput_of_plan rfl rfl (ScaleFilter.plan_of_resolve
      (Dimensions.resolve_default (value _) (value _) ⟨rfl, rfl⟩) rfl) rfl
  let job : Job := ⟨.bgra, ⟨2147483647, 2147483647⟩, filter, output, world⟩
  have planned : Job.plan {} greatestRequest = .ok job :=
    plan_of_accepted rfl (by rfl) (by rfl) rfl accepted
  have source : Place.ofPath greatestRequest.input = .file "in" := by cbv
  have target : Place.ofPath greatestRequest.output = .file "out" := by cbv
  have data_eq : greatestRequest.source [("in", #[])] = #[] := by
    have elsewhere : Place.ofPath greatestRequest.input ≠ Place.ofPath greatestRequest.output := by
      rw [source, target]
      decide
    rw [ScaleRequest.source, Files.load_save_of_ne elsewhere]
    simp only [Files.load, source]
    rfl
  have large : ¬(job.video #[] none).HasRoom := by
    show ¬((none : Option Nat) = some 0 ∨ Bytes.Fit [Format.packedBytes
      (PixelFormat.bgra.shapes (2147483647 : UInt32).toNat (2147483647 : UInt32).toNat)])
    decide
  have ran : (job.run #[] none).frames = .error (.broken .tooLarge) ∧
      (job.run #[] none).output = #[] := by
    simp only [Job.run, RawVideo.readAll_of_error (RawVideo.next?_tooLarge large), and_self]
  refine ⟨job, planned, ?_, ?_⟩
  · show (greatestRequest.source _).size / _ = 0
    rw [data_eq]
    exact Nat.zero_div _
  · rw [@run_scale greatestRequest [("in", #[])] job planned, run_transfer_broken
      (by simp only [Files.canOpen, source]; rfl) (by simp only [Files.canClear, target])
      (by rw [data_eq]; exact ran.1), data_eq]
    exact congrArg (fun output => (_, Files.save _ "out" output)) ran.2

end VideoScaler.CommandLine
