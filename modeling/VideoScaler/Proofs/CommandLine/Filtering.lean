import VideoScaler.CommandLine.Job
import VideoScaler.Proofs.Account.Filter
import VideoScaler.Proofs.CommandLine.Reading
import VideoScaler.Proofs.Filter.Bridging

/-! All frames of a job, one after the other.

A job that could be set up can only fail for the size of its frames: its filter serves a link
between formats in host memory, and whatever frames came before, it makes the same frame of the same
input. So a whole run writes what each frame alone would give, and leaves no surface behind.
-/

set_option autoImplicit false

namespace VideoScaler

namespace ScaleFilter

variable {f : ScaleFilter Converter} {link : InputLink} {outFormat : PixelFormat} {setup : Setup}
  {output : OutputLink} {c : Converter} {input : Frame}

theorem finishFrame_congr (config : ScaleConfig) (output : OutputLink) (input : Frame)
    {frame other : Frame} (planes : frame.planes = other.planes)
    (payload : frame.payload = other.payload) (backing : frame.backing = other.backing) :
    finishFrame config output input frame = finishFrame config output input other := by
  simp only [finishFrame, Frame.copyProperties, planes, payload, backing]

theorem Serves.filterFrame_same {device : Option Device} (serves : f.Serves setup output c)
    (agreement : Agreement link device outFormat setup output c)
    (yields : output.pool.Yields outFormat output.size) (hostOut : outFormat.isHardware = false)
    (format_eq : input.format = setup.layout) (sampled : input.Sampled)
    (columns : 1 ≤ input.width.toNat ∧ input.width.toNat ≤ 2147483647)
    (rows : 1 ≤ input.height.toNat ∧ input.height.toNat ≤ 2147483647)
    (room : input.HasRoom (.ofPixelFormat input.format) (.ofPixelFormat outFormat) output.size) :
    ∃ out, (∀ earlier u, ((f.afterFrames earlier).filterFrame input u).1 = .ok out) ∧
      out.Sampled ∧ out.format = output.format ∧ out.width = output.width ∧
      out.height = output.height ∧ out.backing = none := by
  obtain ⟨_, first, _, converted, -, payload_eq, backing_eq, result, fills, planes_eq⟩ :=
    serves.convert_planes agreement yields hostOut format_eq sampled columns rows .empty room
  have tight := Bridge.tight_zipWith_downloaded fills.length_eq
  rw [← planes_eq] at tight
  refine ⟨finishFrame f.config output input first, fun earlier u => ?_, ?_, rfl, rfl, rfl,
    backing_eq⟩
  · -- What the samples are converted to does not depend on the filter or the world.
    obtain ⟨later, same⟩ := serves.afterFrames agreement.ready.pending_eq earlier
    obtain ⟨_, other, _, again, scaled, payload, backing, result', -, planes⟩ :=
      later.convert_planes agreement yields hostOut format_eq sampled columns rows u room
    obtain rfl : converted = again := Except.ok.inj (result.symm.trans result')
    rw [scaled, same]
    exact congrArg Except.ok (finishFrame_congr _ _ _ (planes.trans planes_eq.symm)
      (payload.trans payload_eq.symm) (backing.trans backing_eq.symm))
  · have positive : 1 ≤ output.height.toNat :=
      Nat.one_le_iff_ne_zero.2 fun zero => yields.height_ne (UInt32.toNat_inj.1 zero)
    exact Frame.sampled_of_tight payload_eq positive tight

theorem afterFrames_concat (f : ScaleFilter Converter) (earlier : List (Frame × World))
    (input : Frame) (u : World) :
    f.afterFrames (earlier ++ [(input, u)])
      = ((f.afterFrames earlier).filterFrame input u).2.1 := by
  simp only [afterFrames, List.foldl_append, List.foldl_cons, List.foldl_nil]

end ScaleFilter

namespace CommandLine.Job

variable {job : Job} {input out : Frame}

/-- Is this what a job makes of a frame, whatever came before and whatever else there is? -/
def Makes (job : Job) (input out : Frame) : Prop :=
  ∀ (earlier : List (Frame × World)) (u : World),
    ((job.filter.afterFrames earlier).filterFrame input u).1 = .ok out

/-- Has a frame its samples, and refers to nothing? -/
structure Plain (f : Frame) : Prop where
  sampled : f.Sampled
  backing_eq : f.backing = none

theorem Plain.buffers_eq {f : Frame} (plain : Plain f) : f.buffers = [] := by
  rw [Frame.buffers, plain.sampled.payload_eq, plain.backing_eq]
  rfl

/-- The filter of a job serves a link between formats in host memory, and there is nothing that
was made so far. -/
structure Ready (job : Job) (link : InputLink) (outFormat : PixelFormat) : Prop where
  hostIn : job.format.isHardware = false
  hostOut : outFormat.isHardware = false
  columns : 1 ≤ job.size.width.toNat ∧ job.size.width.toNat ≤ 2147483647
  rows : 1 ≤ job.size.height.toNat ∧ job.size.height.toNat ≤ 2147483647
  yields : job.output.pool.Yields outFormat job.output.size
  served : ∃ setup c, job.filter.Serves setup job.output c ∧
    Agreement link none outFormat setup job.output c ∧ setup.layout = job.format
  accounts : job.world.Accounts 0 0
  created_eq : job.world.media.created = 0

theorem outputFormat_ok {config : ScaleConfig} {format wanted : PixelFormat}
    (chosen : outputFormat config format = .ok wanted) :
    format.isHardware = false ∧ wanted.isHardware = false := by
  unfold outputFormat at chosen
  simp only at chosen
  split at chosen
  · cases chosen
  case isFalse hostIn =>
    split at chosen <;> cases chosen
    case isFalse listed =>
      simp only [Bool.or_eq_true, not_or, Bool.not_eq_true] at listed hostIn
      exact ⟨hostIn, listed.2⟩

theorem ok_of_mapError {ε δ α : Type} {g : ε → δ} {x : Except ε α} {a : α}
    (mapped : x.mapError g = .ok a) : x = .ok a := by
  cases x with
  | error e => cases mapped
  | ok b =>
    cases mapped
    rfl

theorem accepted_of_start {config : ScaleConfig} {format : PixelFormat} {size : Resolution}
    (started : start config format size = .ok job) :
    job.format = format ∧ job.size = size ∧ format.isHardware = false ∧
      ∃ wanted, wanted.isHardware = false ∧
        (⟨.new, none, config, none⟩ : ScaleFilter Converter).configOutput softwareRuntime
          { format, width := size.width, height := size.height } wanted .empty
            = (.ok job.output, job.filter, job.world) := by
  unfold start at started
  obtain ⟨wanted, chosen, started⟩ := bind_ok started
  obtain ⟨filter, made, started⟩ := bind_ok started
  obtain ⟨hostIn, hostOut⟩ := outputFormat_ok chosen
  obtain rfl := ScaleFilter.init_ok (ok_of_mapError made)
  simp only at started
  obtain ⟨output, accepted, started⟩ := bind_ok started
  cases started
  exact ⟨rfl, rfl, hostIn, wanted, hostOut, Prod.ext (ok_of_mapError accepted) rfl⟩

theorem start_of_accepted {config : ScaleConfig} {format wanted : PixelFormat} {size : Resolution}
    {output : OutputLink} {filter : ScaleFilter Converter} {world : World}
    (chosen : outputFormat config format = .ok wanted) (valid : config.validate = .ok ())
    (accepted : (⟨.new, none, config, none⟩ : ScaleFilter Converter).configOutput softwareRuntime
      { format, width := size.width, height := size.height } wanted .empty
        = (.ok output, filter, world)) :
    start config format size = .ok ⟨format, size, filter, output, world⟩ := by
  have made : ScaleFilter.init config none
      = .ok (⟨.new, none, config, none⟩ : ScaleFilter Converter) := by
    rw [ScaleFilter.init, valid]
    rfl
  simp only [start, chosen, made, accepted, Except.mapError, bind, Except.bind, pure, Except.pure]

theorem ready_of_start {config : ScaleConfig} {format : PixelFormat} {size : Resolution}
    (started : start config format size = .ok job) :
    ∃ link outFormat, job.Ready link outFormat := by
  obtain ⟨rfl, rfl, hostIn, wanted, hostOut, accepted⟩ := accepted_of_start started
  obtain ⟨-, offered, setup, c, serves, agreement⟩ := ScaleFilter.configOutput_ok accepted
  obtain ⟨columns, rows⟩ := ScaleFilter.configOutput_size_pos accepted
  have layout_eq : setup.layout = job.format :=
    agreement.layout_eq.trans (ScaleFilter.layout_of_host hostIn)
  -- What waits at the converter is nothing, and the pool that was made is no surface.
  have idle : job.filter.scaler.pending = none := by
    rw [Scaler.pending, serves.component_eq]
    exact agreement.ready.pending_eq
  have accounts : job.world.Accounts (entries job.filter.scaler.pending + 0) 0 :=
    World.Accounts.empty.configOutput accepted
  rw [idle, entries_none_add] at accounts
  refine ⟨_, wanted, hostIn, hostOut, toNat_of_toInt32_pos columns, toNat_of_toInt32_pos rows,
    ScaleFilter.yields_of_host agreement offered hostOut, ⟨setup, c, serves, agreement, layout_eq⟩,
    accounts, ?_⟩
  rw [ScaleFilter.media_configOutput accepted]
  rfl

variable {link : InputLink} {outFormat : PixelFormat}

/-- Can there be arrays for a frame of the input on its way to the output? -/
def Scales (job : Job) : Prop :=
  ({ format := job.format, width := job.size.width, height := job.size.height } : Frame).HasRoom
    (.ofPixelFormat job.format) (.ofPixelFormat job.output.format) job.output.size

instance (job : Job) : Decidable job.Scales :=
  inferInstanceAs (Decidable (Frame.HasRoom _ _ _ _))

/-- Can there be arrays for the frames of a video, as many as there are, and for what is made of
them? -/
structure HasRoom (job : Job) (v : RawVideo) : Prop where
  read : v.HasRoom
  scaled : 0 < v.count → job.Scales

theorem Ready.makes (ready : job.Ready link outFormat) (plain : Plain input)
    (format_eq : input.format = job.format) (width_eq : input.width = job.size.width)
    (height_eq : input.height = job.size.height) (scales : job.Scales) :
    ∃ out, job.Makes input out ∧ Plain out ∧ out.format = job.output.format ∧
      out.width = job.output.width ∧ out.height = job.output.height := by
  obtain ⟨setup, c, serves, agreement, layout_eq⟩ := ready.served
  have room : input.HasRoom (.ofPixelFormat input.format) (.ofPixelFormat outFormat)
      job.output.size := by
    have target_eq : job.output.format = outFormat :=
      agreement.format_eq.trans ready.yields.format_eq
    obtain ⟨upload, result, samples⟩ := scales
    rw [← format_eq, ← width_eq, ← height_eq] at upload samples
    rw [target_eq] at result samples
    exact ⟨fun _ => upload rfl, result, samples⟩
  obtain ⟨out, made, sampled, shown⟩ := serves.filterFrame_same agreement ready.yields
    ready.hostOut (format_eq.trans layout_eq.symm) plain.sampled (width_eq ▸ ready.columns)
    (height_eq ▸ ready.rows) room
  exact ⟨out, made, ⟨sampled, shown.2.2.2⟩, shown.1, shown.2.1, shown.2.2.1⟩

theorem Ready.pending_eq (ready : job.Ready link outFormat) (earlier : List (Frame × World)) :
    (job.filter.afterFrames earlier).scaler.pending = none := by
  obtain ⟨setup, c, serves, agreement, -⟩ := ready.served
  obtain ⟨later, -⟩ := serves.afterFrames agreement.ready.pending_eq earlier
  rw [Scaler.pending, later.component_eq]
  exact agreement.ready.pending_eq

/-- One frame of a run: its samples are written behind what was written, and all surfaces that
were made for it are gone again. -/
theorem step_writes (made : job.Makes input out) (plainIn : Plain input) (plainOut : Plain out)
    {bytes : Bytes} (packed : out.packed? = some bytes) (earlier : List (Frame × World))
    {w : World} (accounts : w.Accounts 0 0) (written : Bytes) :
    ∃ u v, (job.filter.afterFrames earlier).filterFrame input w
        = (.ok out, job.filter.afterFrames (earlier ++ [(input, w)]), u) ∧
      writeFrame written out u = (.ok (), written ++ bytes, v) ∧ v.Accounts 0 0 ∧
      v.media.created = w.media.created + 2 := by
  obtain ⟨u, filtered⟩ : ∃ u, (job.filter.afterFrames earlier).filterFrame input w
      = (.ok out, job.filter.afterFrames (earlier ++ [(input, w)]), u) := by
    refine ⟨_, Prod.ext (made earlier w) (Prod.ext ?_ rfl)⟩
    exact (ScaleFilter.afterFrames_concat job.filter earlier input w).symm
  refine ⟨u, u.dropFrame out, filtered, by simp only [writeFrame, packed], ?_, ?_⟩
  · have before : w.Accounts 0 (input.buffers + 0) := by rwa [plainIn.buffers_eq]
    exact (before.filterFrame filtered).dropFrame
  · rw [World.created_dropFrame]
    exact ScaleFilter.created_filterFrame plainIn.sampled.payload_eq plainOut.sampled.payload_eq
      filtered

theorem run_writes {frames outs : List Frame} {pieces : List Bytes}
    (made : List.Forall₂ job.Makes frames outs) (plainIn : ∀ f ∈ frames, Plain f)
    (plainOut : ∀ f ∈ outs, Plain f) (packed : outs.map Frame.packed? = pieces.map some)
    (earlier : List (Frame × World)) {w : World} (accounts : w.Accounts 0 0) (taken : Nat)
    (written : Bytes) :
    ∃ later v, (job.filter.afterFrames earlier).run writeFrame frames taken written w
        = (.ok (taken + frames.length), job.filter.afterFrames later,
            pieces.foldl (· ++ ·) written, v) ∧
      v.Accounts 0 0 ∧ v.media.created = w.media.created + 2 * frames.length := by
  induction made generalizing pieces earlier w taken written with
  | nil =>
    obtain rfl : [] = pieces := by simpa using packed
    exact ⟨earlier, w, rfl, accounts, rfl⟩
  | @cons input out frames outs first _ ih =>
    obtain ⟨bytes, pieces, rfl⟩ : ∃ bytes rest, pieces = bytes :: rest := by
      cases pieces with
      | nil => cases packed
      | cons bytes rest => exact ⟨bytes, rest, rfl⟩
    rw [List.map_cons, List.map_cons, List.cons.injEq] at packed
    obtain ⟨u, v, filtered, wrote, balanced, created⟩ := step_writes first
      (plainIn input List.mem_cons_self) (plainOut out List.mem_cons_self) packed.1 earlier accounts
      written
    obtain ⟨later, v', ran, balanced', created'⟩ := ih
      (fun f member => plainIn f (List.mem_cons_of_mem _ member))
      (fun f member => plainOut f (List.mem_cons_of_mem _ member)) packed.2
      (earlier ++ [(input, w)]) balanced (taken + 1) (written ++ bytes)
    refine ⟨later, v', ?_, balanced', ?_⟩
    · simp only [ScaleFilter.run, filtered, wrote, ran, List.foldl_cons, List.length_cons,
        Nat.add_assoc, Nat.add_comm 1]
    · rw [created', created, List.length_cons]
      omega

def outputBytes (job : Job) : Nat :=
  Format.packedBytes
    (job.output.format.shapes job.output.width.toNat job.output.height.toNat)

theorem plain_of_read {data : Bytes} {limit : Option Nat} {frames : List Frame}
    (filled : 0 < (job.video data limit).frameBytes) (hostIn : job.format.isHardware = false)
    (shown : (List.range (job.video data limit).count).map (job.video data limit).frame?
      = frames.map some) :
    ∀ f ∈ frames, f.format = job.format ∧ f.width = job.size.width ∧ f.height = job.size.height ∧
      (1 ≤ job.size.height.toNat → Plain f) := by
  intro f member
  have entry : some f ∈ (List.range (job.video data limit).count).map
      (job.video data limit).frame? := by
    rw [shown]
    exact List.mem_map_of_mem member
  obtain ⟨i, inside, made⟩ := List.mem_map.1 entry
  obtain ⟨g, same, format_eq, width_eq, height_eq, payload_eq, backing_eq, tight⟩ :=
    RawVideo.frame?_eq_some filled hostIn (List.mem_range.1 inside)
  obtain rfl : g = f := Option.some.inj (same.symm.trans made)
  refine ⟨format_eq, width_eq, height_eq, fun rows => ⟨?_, backing_eq⟩⟩
  exact Frame.sampled_of_tight payload_eq (by rwa [height_eq]) tight

theorem Ready.frameBytes_pos (ready : job.Ready link outFormat) (data : Bytes)
    (limit : Option Nat) : 0 < (job.video data limit).frameBytes :=
  PixelFormat.packedBytes_pos ready.hostIn ready.columns.1 ready.rows.1

/-- All of a job: its video ends, each frame is scaled by itself, and the account is even. -/
theorem Ready.run_eq (ready : job.Ready link outFormat) {data : Bytes} {limit : Option Nat}
    (room : job.HasRoom (job.video data limit)) :
    ∃ (frames outs : List Frame) (pieces : List Bytes),
      (job.video data limit).Reads frames ∧
      (List.range (job.video data limit).count).map (job.video data limit).frame?
        = frames.map some ∧
      List.Forall₂ job.Makes frames outs ∧ outs.map Frame.packed? = pieces.map some ∧
      (pieces.foldl (· ++ ·) #[]).size = (job.video data limit).count * job.outputBytes ∧
      job.run data limit =
        ⟨pieces.foldl (· ++ ·) #[], .ok (job.video data limit).count,
          2 * (job.video data limit).count, 0⟩ := by
  have filled := ready.frameBytes_pos data limit
  obtain ⟨frames, reads, shown⟩ := RawVideo.reads_of_start filled room.read ready.hostIn rfl rfl
  have count_eq : frames.length = (job.video data limit).count := by
    simpa using (congrArg List.length shown).symm
  have frames_of := plain_of_read filled ready.hostIn shown
  have plainIn : ∀ f ∈ frames, Plain f := fun f member => (frames_of f member).2.2.2 ready.rows.1
  -- Every frame by itself,
  have each : ∀ f ∈ frames, ∃ out bytes, job.Makes f out ∧ Plain out ∧
      out.packed? = some bytes ∧ bytes.size = job.outputBytes := by
    intro f member
    obtain ⟨format_eq, width_eq, height_eq, -⟩ := frames_of f member
    have scales := room.scaled (count_eq ▸ List.length_pos_of_mem member)
    obtain ⟨out, made, plain, outFormat_eq, outWidth_eq, outHeight_eq⟩ :=
      ready.makes (plainIn f member) format_eq width_eq height_eq scales
    obtain ⟨bytes, packed, size⟩ := plain.sampled.packed?
    rw [outFormat_eq, outWidth_eq, outHeight_eq] at size
    exact ⟨out, bytes, made, plain, packed, size⟩
  choose! out bytes made plain packed size using each
  have all : List.Forall₂ job.Makes frames (frames.map out) := by
    rw [List.forall₂_map_right_iff, List.forall₂_same]
    exact made
  have pieces : (frames.map out).map Frame.packed? = (frames.map bytes).map some := by
    rw [List.map_map, List.map_map]
    exact List.map_congr_left packed
  have sizes : ∀ piece ∈ frames.map bytes, piece.size = job.outputBytes :=
    List.forall_mem_map.2 size
  -- and then the run over all of them.
  obtain ⟨later, v, ran, accounts, created⟩ := run_writes all plainIn
    (List.forall_mem_map.2 plain) pieces [] ready.accounts 0 #[]
  have ended : v.Accounts (entries (job.filter.afterFrames later).scaler.pending + 0) 0 := by
    rwa [ready.pending_eq later, entries_none_add]
  have live_eq := ended.uninit.1.live_eq
  have made_eq : ((job.filter.afterFrames later).uninit v).2.media.created = 2 * frames.length := by
    show ((job.filter.afterFrames later).scaler.terminate v.media).2.created = _
    rw [Media.created_terminate, created, ready.created_eq, Nat.zero_add]
  have readAll_eq : (job.video data limit).readAll [] = .ok frames := reads.readAll_eq []
  rw [← count_eq] at shown ⊢
  refine ⟨frames, _, _, reads, shown, all, pieces, ?_, ?_⟩
  · rw [Frame.size_foldl_append sizes, List.length_map]
    exact Nat.zero_add _
  · have start : job.filter.afterFrames [] = job.filter := rfl
    rw [start, Nat.zero_add] at ran
    simp only [run, readAll_eq, ran, made_eq, live_eq]

end CommandLine.Job

end VideoScaler
