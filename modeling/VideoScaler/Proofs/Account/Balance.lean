import Mathlib.Logic.Relation
import VideoScaler.Proofs.Account.Operation
import VideoScaler.Proofs.Filter.HostFrame

/-! One operation after the other.

Nobody but the caller holds anything. So the surfaces that are neither in the hands of the caller
nor in a buffer there are gone, and the two numbers that the runtime tells differ by the number of
the surfaces that are left.
-/

set_option autoImplicit false

namespace VideoScaler

/-- All there is: the world, and what is in the hands of the caller. -/
structure Scene where
  world : World
  hands : Multiset Holder

namespace Scene

def start : Scene :=
  ⟨.empty, 0⟩

def surfaces (σ : Scene) : Finset (Ref SurfaceState) :=
  (σ.hands.bind fun o => o.surfaces σ.world).toFinset

inductive Step : Scene → Scene → Prop where
  | mk {w v : World} {taken given : List Holder} (operation : Operation w taken v given)
    (rest : Multiset Holder) : Step ⟨w, taken + rest⟩ ⟨v, given + rest⟩

def Leads : Scene → Scene → Prop :=
  Relation.ReflTransGen Step

/-- Is everything in the hands of the caller entered, and nothing else? -/
def Balanced (σ : Scene) : Prop :=
  σ.world.Accounts (ownedBy σ.hands) (copiesIn σ.hands)

variable {σ τ : Scene}

theorem Balanced.start : Scene.start.Balanced :=
  World.Accounts.empty

theorem Balanced.step (balanced : σ.Balanced) (step : σ.Step τ) : τ.Balanced := by
  obtain ⟨operation, rest⟩ := step
  unfold Balanced at balanced ⊢
  rw [ownedBy_add, copiesIn_add] at balanced ⊢
  exact operation.accounts balanced

theorem Balanced.leads (balanced : σ.Balanced) (leads : σ.Leads τ) : τ.Balanced := by
  induction leads with
  | refl => exact balanced
  | tail _ step ih => exact ih.step step

theorem Balanced.mem_copiesIn (balanced : σ.Balanced) {b : FrameBuffer} {s : Surface}
    (holds : σ.world.held? b = some s) : b ∈ copiesIn σ.hands := by
  obtain ⟨state, found, surface⟩ := Option.bind_eq_some_iff.1 holds
  have holders := World.Accounts.holders_eq balanced b
  rw [found] at holders
  refine Multiset.count_ne_zero.1 fun none => ?_
  rw [World.Accounts.gone balanced b state found (holders.trans none)] at surface
  cases surface

theorem Balanced.surfaces_eq (balanced : σ.Balanced) :
    σ.surfaces = (ownedBy σ.hands + σ.world.buffered).toFinset := by
  ext r
  rw [surfaces, Multiset.mem_toFinset, Multiset.mem_toFinset, Multiset.mem_bind, Multiset.mem_add,
    World.mem_buffered]
  constructor
  · rintro ⟨o, member, has⟩
    rcases Multiset.mem_add.1 has with own | has
    · exact .inl (Multiset.mem_bind.2 ⟨o, member, own⟩)
    · obtain ⟨b, -, has⟩ := Multiset.mem_bind.1 has
      exact .inr ⟨b, mem_entries.1 has⟩
  · rintro (own | ⟨b, s, has⟩)
    · obtain ⟨o, member, own⟩ := Multiset.mem_bind.1 own
      exact ⟨o, member, Multiset.mem_add.2 (.inl own)⟩
    · obtain ⟨o, member, copy⟩ := Multiset.mem_bind.1 (balanced.mem_copiesIn has.1)
      have buffered : r ∈ o.buffers.bind fun b => entries (σ.world.held? b) :=
        Multiset.mem_bind.2 ⟨b, copy, mem_entries.2 ⟨s, has⟩⟩
      exact ⟨o, member, Multiset.mem_add.2 (.inr buffered)⟩

theorem Balanced.created_eq (balanced : σ.Balanced) :
    σ.world.media.created = σ.world.media.released + σ.surfaces.card := by
  rw [balanced.surfaces_eq]
  exact balanced.media.created_eq

section
variable {f g : ScaleFilter Converter} {input : Frame} {rest : Multiset Holder} {w v : World}
  {result : Attempt Error Frame}

theorem Balanced.surfaces_filter {frame : Option Frame}
    (balanced : Balanced ⟨w, (.filter f :: frame.toList.map .frame : List Holder) + rest⟩) :
    (⟨w, (.filter f :: frame.toList.map .frame : List Holder) + rest⟩ : Scene).surfaces
      = (entries f.scaler.pending + ownedBy rest + w.buffered).toFinset := by
  rw [balanced.surfaces_eq, ownedBy_add, ownedBy_cons, ownedBy_frame, add_zero]
  rfl

theorem held?_filterFrame (filtered : f.filterFrame input w = (result, g, v))
    (plain : ∀ out, result = .ok out → out.payload = none) {b : FrameBuffer} {s : Surface}
    (holds : v.held? b = some s) : w.held? b = some s := by
  obtain ⟨u, converted, rfl⟩ := ScaleFilter.convert_of_filterFrame filtered
  have before := World.held?_of_dropFrame holds
  rwa [World.held?, ScaleFilter.buffers_convert converted plain] at before

section
variable (balanced : Balanced ⟨w, ([.filter f, .frame input] : List Holder) + rest⟩)
include balanced

theorem surfaces_with_input :
    (⟨w, ([.filter f, .frame input] : List Holder) + rest⟩ : Scene).surfaces
      = (entries f.scaler.pending + ownedBy rest + w.buffered).toFinset :=
  @Balanced.surfaces_filter f rest w (some input) balanced

variable (filtered : f.filterFrame input w = (result, g, v))
  (plain : ∀ out, result = .ok out → out.payload = none)
include filtered plain

theorem surfaces_filterFrame_subset :
    (⟨v, (.filter g :: result.toOption.toList.map .frame : List Holder) + rest⟩ : Scene).surfaces
      ⊆ (⟨w, ([.filter f, .frame input] : List Holder) + rest⟩ : Scene).surfaces := by
  have after := balanced.step (.mk (.filterFrame filtered) rest)
  rw [surfaces_with_input balanced, after.surfaces_filter, ScaleFilter.pending_filterFrame filtered]
  intro r member
  rw [Multiset.mem_toFinset, Multiset.mem_add] at member ⊢
  refine member.imp id fun buffered => ?_
  obtain ⟨b, s, holds, same⟩ := World.mem_buffered.1 buffered
  exact World.mem_buffered.2 ⟨b, s, held?_filterFrame filtered plain holds, same⟩

theorem surfaces_filterFrame_eq (unbuffered : input.buffers = []) :
    (⟨v, (.filter g :: result.toOption.toList.map .frame : List Holder) + rest⟩ : Scene).surfaces
      = (⟨w, ([.filter f, .frame input] : List Holder) + rest⟩ : Scene).surfaces := by
  have after := balanced.step (.mk (.filterFrame filtered) rest)
  have buffers : v.buffers = w.buffers := by
    obtain ⟨u, converted, rfl⟩ := ScaleFilter.convert_of_filterFrame filtered
    rw [World.dropFrame, unbuffered]
    exact ScaleFilter.buffers_convert converted plain
  rw [surfaces_with_input balanced, after.surfaces_filter,
    ScaleFilter.pending_filterFrame filtered, World.buffered, World.buffered, buffers]

end

end

/-- After any sequence of operations the surfaces made and not gone are those that still have a
holder. A frame that is refused leaves none behind, and one that stays in host memory takes two
that are gone afterwards. -/
theorem balance (leads : Scene.start.Leads σ) :
    σ.world.media.created = σ.world.media.released + σ.surfaces.card ∧
    (σ.hands = 0 → σ.world.media.created = σ.world.media.released) ∧
    ∀ f input rest, σ.hands = ([.filter f, .frame input] : List Holder) + rest → ∀ g v,
      (∀ failure, f.filterFrame input σ.world = (.error failure, g, v) →
        (⟨v, ([.filter g] : List Holder) + rest⟩ : Scene).surfaces ⊆ σ.surfaces) ∧
      ∀ out, f.filterFrame input σ.world = (.ok out, g, v) →
        input.payload = none → out.payload = none →
        v.media.created = σ.world.media.created + 2 ∧
        (⟨v, ([.filter g, .frame out] : List Holder) + rest⟩ : Scene).surfaces ⊆ σ.surfaces ∧
        (input.backing = none → v.media.released = σ.world.media.released + 2) := by
  have balanced := Balanced.start.leads leads
  refine ⟨balanced.created_eq, fun none => ?_, ?_⟩
  · rw [balanced.created_eq, surfaces, none]
    rfl
  · rintro f input rest hands g v
    obtain ⟨w, hands'⟩ := σ
    subst hands
    refine ⟨fun failure filtered => ?_, fun out filtered hostIn hostOut => ?_⟩
    · have left := surfaces_filterFrame_subset balanced filtered (fun _ none => by cases none)
      exact left
    · have plain (frame : Frame) (same : (.ok out : Attempt Error Frame) = .ok frame) :
          frame.payload = none := by
        cases same
        exact hostOut
      have created : v.media.created = w.media.created + 2 := by
        obtain ⟨u, converted, rfl⟩ := ScaleFilter.convert_of_filterFrame filtered
        rw [World.created_dropFrame, ScaleFilter.created_convert hostIn hostOut converted]
      have left := surfaces_filterFrame_subset balanced filtered plain
      refine ⟨created, left, fun unbacked => ?_⟩
      have unbuffered : input.buffers = [] := by
        rw [Frame.buffers, hostIn, unbacked]
        rfl
      have after := (balanced.step (.mk (.filterFrame filtered) rest)).created_eq
      have before := balanced.created_eq
      rw [surfaces_filterFrame_eq balanced filtered plain unbuffered] at after
      simp only at after before ⊢
      omega

open ScaleFilter in
theorem balance_four_by_two :
    ∃ (σ : Scene) (f g : ScaleFilter Converter) (out : Frame) (v : World),
      Scene.start.Leads σ ∧
      σ.hands = ([.filter f, .frame (.blank .yuv420p 4 2)] : List Holder) + 0 ∧
      f.filterFrame (.blank .yuv420p 4 2) σ.world = (.ok out, g, v) ∧ out.payload = none ∧
      σ.world.media.created = σ.world.media.released + σ.surfaces.card ∧
      v.media.created = σ.world.media.created + 2 ∧
      v.media.released = σ.world.media.released + 2 := by
  have accepted : ∃ output g v, (⟨.new, none, {}, none⟩ : ScaleFilter Converter).configOutput
      softwareRuntime { format := .yuv420p, width := 4, height := 2 } .bgra .empty
        = (.ok output, g, v) ∧ output.size = ⟨4, 2⟩ :=
    configOutput_sized rfl rfl
      (plan_of_resolve (Dimensions.resolve_four_by_two Ratio.unset .yuv420p .yuv420p) rfl) rfl
  obtain ⟨output, f, w, accepted, size_eq⟩ := accepted
  have made : ScaleFilter.init {} none = .ok (⟨.new, none, {}, none⟩ : ScaleFilter Converter) := by
    rw [init, Dimensions.validate_default]
    rfl
  have leads : Scene.start.Leads
      ⟨w, ([.filter f, .frame (.blank .yuv420p 4 2)] : List Holder) + 0⟩ := by
    have started : Step .start ⟨.empty, ([.filter ⟨.new, none, {}, none⟩] : List Holder) + 0⟩ :=
      .mk (.initFilter made) 0
    have linked : Step ⟨.empty, ([.filter ⟨.new, none, {}, none⟩] : List Holder) + 0⟩
        ⟨w, ([.filter f] : List Holder) + 0⟩ := .mk (.configOutput accepted) 0
    have framed : Step ⟨w, ([] : List Holder) + ([.filter f] : List Holder)⟩
        ⟨w, ([.frame (.blank .yuv420p 4 2)] : List Holder) + ([.filter f] : List Holder)⟩ :=
      .mk (.assemble (.blank .yuv420p 4 2)) _
    have same : ([.frame (.blank .yuv420p 4 2)] : List Holder) + ([.filter f] : List Holder)
        = (([.filter f, .frame (.blank .yuv420p 4 2)] : List Holder) : Multiset Holder) + 0 := by
      rw [add_zero]
      exact Multiset.coe_eq_coe.2 (List.Perm.swap ..)
    rw [same] at framed
    exact .head started (.head linked (.single framed))
  have scaled : ∃ out g v, f.filterFrame (.blank .yuv420p 4 2) w = (.ok out, g, v) ∧
      out.payload = none := by
    obtain ⟨-, offered, setup, c, serves, agreement⟩ := configOutput_ok accepted
    have yields := yields_of_host agreement offered (by decide)
    have sampled : (Frame.blank .yuv420p 4 2).Sampled := ⟨rfl, by decide, by decide⟩
    have layout_eq : (Frame.blank .yuv420p 4 2).format = setup.layout := agreement.layout_eq.symm
    obtain ⟨g, frame, v, scaled, payload_eq, -⟩ := serves.convert_sampled agreement yields
      (by decide) layout_eq sampled (by decide) (by decide) w (by rw [size_eq]; decide)
    exact ⟨_, g, v, scaled, payload_eq⟩
  obtain ⟨out, g, v, scaled, hostOut⟩ := scaled
  obtain ⟨account, -, frames⟩ := balance leads
  obtain ⟨created, -, released⟩ := (frames f _ 0 rfl g v).2 out scaled rfl hostOut
  exact ⟨_, f, g, out, v, leads, rfl, scaled, hostOut, account, created, released rfl⟩

end Scene

end VideoScaler
