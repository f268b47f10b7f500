import VideoScaler.Proofs.Surface.Media

/-! What can be seen of a surface.

A reference tells a surface apart from others, but nothing that is made of the surface depends
on it: what counts is the content, the part of it that is shown, and the time stamp.
-/

set_option autoImplicit false

namespace VideoScaler

structure SurfaceContent where
  memory : MemoryType
  format : SurfaceFormat
  width : UInt32
  height : UInt32
  planes : List Plane

namespace Media

def content (m : Media) (s : Surface) : SurfaceContent :=
  ⟨s.memory, s.format, s.width, s.height, m.planes s⟩

/-- Is a surface there with this content, and with this part and time stamp to show? -/
structure Presents (m : Media) (s : Surface) (content : SurfaceContent) (crop : Rect)
    (pts : Int64) : Prop where
  content_eq : m.content s = content
  has : m.Has s content.planes
  there : ∃ state, m.surfaces.get? s.ref = some state ∧ state.crop = crop ∧ state.pts = pts

variable {m : Media} {s t : Surface} {content : SurfaceContent} {crop : Rect} {pts : Int64}

namespace Presents

theorem planes_eq (presents : m.Presents s content crop pts) : m.planes s = content.planes :=
  congrArg SurfaceContent.planes presents.content_eq

theorem crop_eq (presents : m.Presents s content crop pts) : m.crop s = crop := by
  obtain ⟨state, found, shown, -⟩ := presents.there
  simp only [Media.crop, found, Option.map_some, shown, Option.getD_some]

theorem pts_eq (presents : m.Presents s content crop pts) : m.pts s = pts := by
  obtain ⟨state, found, -, time⟩ := presents.there
  simp only [Media.pts, found, Option.map_some, time, Option.getD_some]

theorem of_has {planes : List Plane} (has : m.Has s planes)
    (there : ∃ state, m.surfaces.get? s.ref = some state ∧ state.crop = crop ∧ state.pts = pts) :
    m.Presents s ⟨s.memory, s.format, s.width, s.height, planes⟩ crop pts :=
  ⟨by rw [Media.content, has.planes_eq], has, there⟩

theorem of_content {planes : List Plane} (has : m.Has s planes)
    (content_eq : content = ⟨s.memory, s.format, s.width, s.height, planes⟩)
    (there : ∃ state, m.surfaces.get? s.ref = some state ∧ state.crop = crop ∧ state.pts = pts) :
    m.Presents s content crop pts := by
  rw [content_eq]
  exact of_has has there

theorem modifySurface (presents : m.Presents s content crop pts)
    {f : SurfaceState → SurfaceState} (keeps : ∀ state, (f state).planes = state.planes)
    {newCrop : Rect} {newPts : Int64}
    (shows : ∀ state, state.crop = crop → state.pts = pts →
      (f state).crop = newCrop ∧ (f state).pts = newPts) :
    (m.modifySurface s f).Presents s content newCrop newPts := by
  obtain ⟨state, found, cropped, timed⟩ := presents.there
  refine of_content (presents.has.modifySurface keeps s) ?_ ⟨f state, ?_, shows state cropped timed⟩
  · rw [← presents.planes_eq, ← presents.content_eq, Media.content]
  · simp only [Media.modifySurface, Arena.get?_modify_self, found, Option.map_some]

theorem setCrop (presents : m.Presents s content crop pts) (new : Rect) :
    (m.setCrop s new).Presents s content new pts :=
  presents.modifySurface (f := fun state => { state with crop := new }) (fun _ => rfl)
    fun _ _ timed => ⟨rfl, timed⟩

theorem setPts (presents : m.Presents s content crop pts) (new : Int64) :
    (m.setPts s new).Presents s content crop new :=
  presents.modifySurface (f := fun state => { state with pts := new }) (fun _ => rfl)
    fun _ cropped _ => ⟨cropped, rfl⟩

theorem retain (presents : m.Presents s content crop pts) :
    (m.retain s).Presents s content crop pts :=
  presents.modifySurface (f := fun state => { state with holders := state.holders + 1 })
    (fun _ => rfl) fun _ cropped timed => ⟨cropped, timed⟩

theorem setPlanes (presents : m.Presents s content crop pts) (new : List Plane) :
    (m.setPlanes s new).Presents s { content with planes := new } crop pts := by
  obtain ⟨state, found, cropped, timed⟩ := presents.there
  refine of_content (presents.has.setPlanes new) ?_ ?_
  · rw [← presents.content_eq, Media.content]
  · -- Only a surface of its own keeps the planes where its part and its time stamp are.
    unfold Media.setPlanes
    cases s.backing with
    | own =>
      refine ⟨{ state with planes := new }, ?_, cropped, timed⟩
      simp only [Media.modifySurface, Arena.get?_modify_self, found, Option.map_some]
    | slice texture index => exact ⟨state, found, cropped, timed⟩
    | dx9 picture => exact ⟨state, found, cropped, timed⟩

theorem modifySurface_of_ne (presents : m.Presents s content crop pts) (other : t.ref ≠ s.ref)
    (f : SurfaceState → SurfaceState) :
    (m.modifySurface t f).Presents s content crop pts := by
  refine of_content (presents.has.modifySurface_of_ne other f) ?_ ?_
  · rw [← presents.planes_eq, ← presents.content_eq, Media.content]
  · simp only [Media.modifySurface, Arena.get?_modify_of_ne other]
    exact presents.there

theorem release (presents : m.Presents s content crop pts) (other : t.ref ≠ s.ref) :
    (m.release t).Presents s content crop pts := by
  unfold Media.release
  split
  · split
    · -- The count of surfaces that are gone is no part of what is seen.
      have kept := presents.modifySurface_of_ne other
        fun state => { state with holders := 0, planes := [] }
      exact ⟨kept.content_eq, kept.has, kept.there⟩
    · exact presents.modifySurface_of_ne other _
  · exact presents

theorem makeSurface (presents : m.Presents s content crop pts) (memory : MemoryType)
    (format : SurfaceFormat) (width height : UInt32) (planes : List Plane) :
    (m.makeSurface memory format width height planes).2.Presents s content crop pts := by
  obtain ⟨state, found, shows⟩ := presents.there
  refine of_content (presents.has.makeSurface ..) ?_
    ⟨state, get?_makeSurface_of_some found .., shows⟩
  rw [← presents.planes_eq, ← presents.content_eq, Media.content]

theorem addSurface (presents : m.Presents s content crop pts) (memory : MemoryType)
    (format : SurfaceFormat) (width height : UInt32) (backing : Backing) (planes : List Plane)
    (counted : Bool) :
    (m.addSurface memory format width height backing planes counted).2.Presents s content crop
      pts := by
  obtain ⟨state, found, shows⟩ := presents.there
  have kept : (m.addSurface memory format width height backing planes counted).2.surfaces.get?
      s.ref = m.surfaces.get? s.ref := (Arena.get?_add_of_some found _).trans found.symm
  refine of_content (presents.has.of_eq (by rw [kept]) rfl rfl) ?_ ⟨state, kept.trans found, shows⟩
  rw [← presents.planes_eq, ← presents.content_eq, Media.content]

theorem ne_addSurface (presents : m.Presents s content crop pts) (memory : MemoryType)
    (format : SurfaceFormat) (width height : UInt32) (backing : Backing) (planes : List Plane)
    (counted : Bool) :
    (m.addSurface memory format width height backing planes counted).1.ref ≠ s.ref := by
  obtain ⟨state, found, -⟩ := presents.there
  exact Arena.add_ne_of_some found ⟨Surface.wholeRect width height, 0, 1, planes, counted⟩

end Presents

/-- A new surface shows all of its picture, and its time stamp is zero. -/
theorem presents_addSurface {memory : MemoryType} {format : SurfaceFormat} {width height : UInt32}
    {backing : Backing} {own planes : List Plane} {counted : Bool}
    (has : (m.addSurface memory format width height backing own counted).2.Has
      (m.addSurface memory format width height backing own counted).1 planes) :
    (m.addSurface memory format width height backing own counted).2.Presents
      (m.addSurface memory format width height backing own counted).1
      ⟨memory, format, width, height, planes⟩ (Surface.wholeRect width height) 0 :=
  .of_has has ⟨_, Arena.get?_add_self .., rfl, rfl⟩

theorem presents_makeSurface (m : Media) (memory : MemoryType) (format : SurfaceFormat)
    (width height : UInt32) (planes : List Plane) :
    (m.makeSurface memory format width height planes).2.Presents
      (m.makeSurface memory format width height planes).1
      ⟨memory, format, width, height, planes⟩ (Surface.wholeRect width height) 0 := by
  have has := has_makeSurface m memory format width height planes
  cases memory <;> exact presents_addSurface has

theorem taggedIndex_setPrivateData {texture : Texture} {state : TextureState}
    (there : m.textures.get? texture.ref = some state) {index : Nat}
    (within : index < 2147483648) :
    (m.setPrivateData texture .arrayIndex (Number.fourBytes (Int32.ofNat index))).taggedIndex
      texture = index := by
  have tag : (m.setPrivateData texture .arrayIndex
      (Number.fourBytes (Int32.ofNat index))).privateData? texture .arrayIndex
        = some (Number.fourBytes (Int32.ofNat index)) := by
    simp [privateData?, setPrivateData, there]
  simp only [taggedIndex, tag, Option.bind_some, Number.ofFourBytes?_fourBytes]
  rw [Int32.toInt_ofNat_of_lt within, Int.toNat_natCast]

theorem slice?_setPrivateData (m : Media) (texture : Texture) (guid : Guid) (data : Bytes)
    (other : Texture) (index : Nat) :
    (m.setPrivateData texture guid data).slice? other index = m.slice? other index := by
  by_cases same : texture.ref = other.ref
  · simp only [slice?, setPrivateData, same, Arena.get?_modify_self, Option.bind_map]
    rfl
  · simp only [slice?, setPrivateData, Arena.get?_modify_of_ne same]

theorem Presents.setPrivateData (presents : m.Presents s content crop pts) (texture : Texture)
    (guid : Guid) (data : Bytes) :
    (m.setPrivateData texture guid data).Presents s content crop pts := by
  have has : (m.setPrivateData texture guid data).Has s content.planes := by
    have before := presents.has
    unfold Has at before ⊢
    cases backing : s.backing with
    | slice other index =>
      simp only [backing] at before ⊢
      rw [slice?_setPrivateData, before]
    | _ =>
      simp only [backing] at before ⊢
      exact before
  refine .of_content has ?_ presents.there
  rw [← presents.planes_eq, ← presents.content_eq, Media.content]

/-- A texture is wrapped at the slice that it was told to show just before. -/
theorem wrapTexture_setPrivateData (m : Media) (context : MemoryType) (texture : Texture)
    {index : Nat} (within : index < 2147483648) :
    let tagged := m.setPrivateData texture .arrayIndex (Number.fourBytes (Int32.ofNat index))
    tagged.wrapTexture context texture =
      if context ≠ .dx11 then .error .wrongState
      else
        match m.slice? texture index with
        | none => .error .invalidArg
        | some _ => .ok (tagged.addSurface .dx11 texture.format texture.width texture.height
            (.slice texture index) [] true) := by
  intro tagged
  unfold wrapTexture
  -- A texture that is not there has no slices, whatever it is told.
  have told : tagged.slice? texture (tagged.taggedIndex texture) = m.slice? texture index := by
    rw [slice?_setPrivateData]
    cases there : m.textures.get? texture.ref with
    | none => rw [slice?, slice?, there, Option.bind_none, Option.bind_none]
    | some state => rw [taggedIndex_setPrivateData there within]
  rw [told]
  split
  · rfl
  cases slice : m.slice? texture index with
  | none => rfl
  | some planes =>
    obtain ⟨state, there, -⟩ := Option.bind_eq_some_iff.1 slice
    have index_eq : tagged.taggedIndex texture = index := taggedIndex_setPrivateData there within
    simp only [index_eq]

/-- Are the surfaces of one state all there in another one? A surface without holders stays in
its place. -/
structure Extends (m n : Media) : Prop where
  there : ∀ r, (m.surfaces.get? r).isSome = true → (n.surfaces.get? r).isSome = true

theorem Extends.refl (m : Media) : m.Extends m :=
  ⟨fun _ there => there⟩

theorem Extends.trans {k n : Media} (first : k.Extends m) (second : m.Extends n) : k.Extends n :=
  ⟨fun r there => second.there r (first.there r there)⟩

theorem extends_modifySurface (m : Media) (t : Surface) (f : SurfaceState → SurfaceState) :
    m.Extends (m.modifySurface t f) := by
  refine ⟨fun r there => ?_⟩
  by_cases same : t.ref = r
  · subst same
    simpa only [modifySurface, Arena.get?_modify_self, Option.isSome_map] using there
  · simpa only [modifySurface, Arena.get?_modify_of_ne same] using there

theorem extends_setPlanes (m : Media) (t : Surface) (planes : List Plane) :
    m.Extends (m.setPlanes t planes) := by
  unfold Media.setPlanes
  split
  · exact extends_modifySurface m t _
  · exact ⟨fun _ there => there⟩
  · exact ⟨fun _ there => there⟩

theorem extends_setPrivateData (m : Media) (texture : Texture) (guid : Guid) (data : Bytes) :
    m.Extends (m.setPrivateData texture guid data) :=
  ⟨fun _ there => there⟩

theorem get?_release_of_ne {r : Ref SurfaceState} (other : t.ref ≠ r) (m : Media) :
    (m.release t).surfaces.get? r = m.surfaces.get? r := by
  unfold Media.release
  split
  · split
    · exact Arena.get?_modify_of_ne other m.surfaces _
    · exact Arena.get?_modify_of_ne other m.surfaces _
  · rfl

theorem extends_release (m : Media) (t : Surface) : m.Extends (m.release t) := by
  unfold Media.release
  split
  · split
    · exact ⟨(extends_modifySurface m t _).there⟩
    · exact extends_modifySurface m t _
  · exact .refl m

theorem extends_addSurface (m : Media) (memory : MemoryType) (format : SurfaceFormat)
    (width height : UInt32) (backing : Backing) (planes : List Plane) (counted : Bool) :
    m.Extends (m.addSurface memory format width height backing planes counted).2 := by
  refine ⟨fun r there => ?_⟩
  obtain ⟨state, found⟩ := Option.isSome_iff_exists.1 there
  exact Option.isSome_of_eq_some (Arena.get?_add_of_some found _)

theorem extends_makeSurface (m : Media) (memory : MemoryType) (format : SurfaceFormat)
    (width height : UInt32) (planes : List Plane) :
    m.Extends (m.makeSurface memory format width height planes).2 := by
  refine ⟨fun r there => ?_⟩
  obtain ⟨state, found⟩ := Option.isSome_iff_exists.1 there
  exact Option.isSome_of_eq_some (get?_makeSurface_of_some found ..)

end Media

end VideoScaler
