import VideoScaler.Proofs.Component.Converter
import VideoScaler.Proofs.Filter.Arrival

/-! Textures that are told which slice to show.

The index of the slice is put into the private data of the texture before anything but the index
itself is looked at. A frame that is refused after that leaves its index behind, in a texture that
it shares with other frames.
-/

set_option autoImplicit false

namespace VideoScaler

namespace Media

variable {m : Media} {texture other : Texture} {guid key : Guid}

theorem privateData?_setPrivateData (there : (m.textures.get? texture.ref).isSome = true)
    (guid : Guid) (data : Bytes) :
    (m.setPrivateData texture guid data).privateData? texture guid = some data := by
  obtain ⟨state, found⟩ := Option.isSome_iff_exists.1 there
  simp only [privateData?, setPrivateData, Arena.get?_modify_self, found, Option.map_some,
    Option.bind_some, List.lookup_cons_self]

theorem privateData?_setPrivateData_of_ne (elsewhere : texture.ref ≠ other.ref ∨ key ≠ guid)
    (data : Bytes) :
    (m.setPrivateData texture guid data).privateData? other key = m.privateData? other key := by
  by_cases same : texture.ref = other.ref
  · have ne : key ≠ guid := elsewhere.resolve_left (not_not.2 same)
    simp only [privateData?, setPrivateData, same, Arena.get?_modify_self, Option.bind_map,
      Function.comp_def, List.lookup_cons, beq_false_of_ne ne, lookup_without _ ne]
  · simp only [privateData?, setPrivateData, Arena.get?_modify_of_ne same]

end Media

namespace Bridge

variable {context : DeviceContext} {frame : Frame} {texture : Texture} {index : Nat} {w : World}

/-- A frame of a texture is refused for its index, for the memory of the context, or as there is
no such slice. No surface is made then and no other private data changes. The texture keeps what
it was told before only if the index itself is out of range, or if it was told the same. -/
theorem refused_tagged_iff (there : (w.media.textures.get? texture.ref).isSome = true)
    (payload : frame.payload = some (.d3d11 texture index)) (context : DeviceContext) :
    let arrived := toSurface context frame w
    ((∃ e, arrived.1 = .error (.refused e)) ↔ indexLimit < index ∨ context.memory ≠ .dx11 ∨
      w.media.slice? texture index = none) ∧
    ∀ failure, arrived.1 = .error failure →
      arrived.2.media.surfaces = w.media.surfaces ∧
      arrived.2.media.created = w.media.created ∧
      arrived.2.media.released = w.media.released ∧
      (∀ other key, texture.ref ≠ other.ref ∨ key ≠ .arrayIndex →
        arrived.2.media.privateData? other key = w.media.privateData? other key) ∧
      (arrived.2.media.privateData? texture .arrayIndex = w.media.privateData? texture .arrayIndex ↔
        indexLimit < index ∨ w.media.privateData? texture .arrayIndex =
          some (Number.fourBytes (Int32.ofNat index))) ∧
      (arrived.2.media.taggedIndex texture = w.media.taggedIndex texture ↔
        indexLimit < index ∨ w.media.taggedIndex texture = index) := by
  have outcome := toSurface_wraps payload context w
  generalize toSurface context frame w = arrived at outcome ⊢
  cases outcome with
  | beyond high => simp [high]
  | refused status within lacks =>
    have low : ¬indexLimit < index := Nat.not_lt_of_le within
    obtain ⟨state, found⟩ := Option.isSome_iff_exists.1 there
    have told := Media.privateData?_setPrivateData there .arrayIndex
      (Number.fourBytes (Int32.ofNat index))
    have shown := Media.taggedIndex_setPrivateData found (Nat.lt_succ_of_le within)
    simp only [low, false_or, lacks, iff_true]
    refine ⟨⟨_, rfl⟩, fun _ _ => ⟨rfl, rfl, rfl, fun other key elsewhere => ?_, ?_, ?_⟩⟩
    · exact Media.privateData?_setPrivateData_of_ne elsewhere _
    · rw [Media.tagged, told]
      exact eq_comm
    · rw [Media.tagged, shown]
      exact eq_comm
  | wrapped within native slice =>
    simp [Nat.not_lt_of_le within, native, slice]

def singleSlice : Texture × Media :=
  Media.empty.addTexture 153 .nv12 2 2 [(SurfaceFormat.nv12.shapes 2 2).map Plane.zero]

def secondSliceFrame : Frame where
  format := .d3d11
  width := 2
  height := 2
  payload := some (.d3d11 singleSlice.1 1)

theorem refused_again_tagged :
    let w : World := ⟨singleSlice.2.tagged singleSlice.1 1, .empty, .empty⟩
    let arrived := toSurface ⟨"software", .dx11⟩ secondSliceFrame w
    (∃ e, arrived.1 = .error (.refused e)) ∧
      arrived.2.media.privateData? singleSlice.1 .arrayIndex =
        w.media.privateData? singleSlice.1 .arrayIndex := by
  intro w arrived
  have told : w.media.privateData? singleSlice.1 .arrayIndex =
      some (Number.fourBytes (Int32.ofNat 1)) := by decide
  have there : (w.media.textures.get? singleSlice.1.ref).isSome = true := by decide
  have payload : secondSliceFrame.payload = some (.d3d11 singleSlice.1 1) := rfl
  obtain ⟨refused_iff, keeps⟩ := refused_tagged_iff there payload ⟨"software", .dx11⟩
  obtain ⟨e, refused⟩ := refused_iff.2 (.inr (.inr (by decide)))
  exact ⟨⟨e, refused⟩, (keeps _ refused).2.2.2.2.1.2 (.inr told)⟩

/-- The first refusal leaves the index of the slice behind. -/
theorem refused_first_tagged :
    let w : World := ⟨singleSlice.2, .empty, .empty⟩
    let arrived := toSurface ⟨"software", .dx11⟩ secondSliceFrame w
    arrived.1 = .error (.refused (.resource (.wrapTexture .invalidArg))) ∧
      w.media.privateData? singleSlice.1 .arrayIndex = none ∧
      w.media.taggedIndex singleSlice.1 = 0 ∧
      arrived.2.media.privateData? singleSlice.1 .arrayIndex = some #[1, 0, 0, 0] ∧
      arrived.2.media.taggedIndex singleSlice.1 = 1 := by
  refine ⟨?_, by decide, by decide, ?_, ?_⟩
  · rfl
  · decide
  · decide

end Bridge

end VideoScaler
