import VideoScaler.Surface.Media

/-! What happens to the planes of a surface while other surfaces come and go.

A new surface has the planes it is made with, and it is none of those that were there. Making
or giving up another surface changes nothing about it.
-/

set_option autoImplicit false

namespace VideoScaler.Media

variable {m : Media} {s t : Surface} {planes : List Plane} {state : SurfaceState}

/-- Are these the planes of a surface, and is the place where they are kept there? -/
def Has (m : Media) (s : Surface) (planes : List Plane) : Prop :=
  match s.backing with
  | .own => (m.surfaces.get? s.ref).map SurfaceState.planes = some planes
  | .slice texture index => m.slice? texture index = some planes
  | .dx9 picture => m.dx9.get? picture.ref = some planes

theorem Has.planes_eq (has : m.Has s planes) : m.planes s = planes := by
  unfold Has at has
  unfold Media.planes
  cases backing : s.backing <;> simp only [backing] at has ⊢ <;> rw [has] <;> rfl

theorem Has.of_eq {n : Media} (has : m.Has s planes)
    (own : (n.surfaces.get? s.ref).map SurfaceState.planes
      = (m.surfaces.get? s.ref).map SurfaceState.planes)
    (textures : n.textures = m.textures) (dx9 : n.dx9 = m.dx9) : n.Has s planes := by
  unfold Has slice? at has ⊢
  rwa [own, textures, dx9]

section
variable (m : Media) (memory : MemoryType) (format : SurfaceFormat) (width height : UInt32)
  (planes : List Plane)

theorem makeSurface_surfaces :
    ∃ state : SurfaceState, state.crop = Surface.wholeRect width height ∧
      (m.makeSurface memory format width height planes).1.ref = (m.surfaces.add state).1 ∧
      (m.makeSurface memory format width height planes).2.surfaces = (m.surfaces.add state).2 := by
  cases memory <;> exact ⟨_, rfl, rfl, rfl⟩

theorem format_makeSurface :
    (m.makeSurface memory format width height planes).1.format = format := by
  cases memory <;> rfl

theorem size_makeSurface :
    (m.makeSurface memory format width height planes).1.width = width ∧
      (m.makeSurface memory format width height planes).1.height = height := by
  cases memory <;> exact ⟨rfl, rfl⟩

theorem has_makeSurface :
    (m.makeSurface memory format width height planes).2.Has
      (m.makeSurface memory format width height planes).1 planes := by
  -- A native surface keeps its planes in the new object that it wraps, not in its own state.
  cases memory with
  | dx11 =>
    have added := Arena.get?_add_self m.textures ⟨[planes], []⟩
    simp only [Has, makeSurface, addTexture, addSurface, slice?, added, Option.bind_some]
    rfl
  | dx9 =>
    have added := Arena.get?_add_self m.dx9 planes
    simpa only [Has, makeSurface, addDx9, addSurface] using added
  | _ => simp [Has, makeSurface, addSurface]

end

variable {memory : MemoryType} {format : SurfaceFormat} {width height : UInt32}

theorem get?_makeSurface_of_some {r : Ref SurfaceState} (found : m.surfaces.get? r = some state)
    (memory : MemoryType) (format : SurfaceFormat) (width height : UInt32) (planes : List Plane) :
    (m.makeSurface memory format width height planes).2.surfaces.get? r = some state := by
  obtain ⟨_, -, -, surfaces_eq⟩ := makeSurface_surfaces m memory format width height planes
  rw [surfaces_eq]
  exact Arena.get?_add_of_some found _

theorem makeSurface_ne_of_some {r : Ref SurfaceState} (found : m.surfaces.get? r = some state)
    (memory : MemoryType) (format : SurfaceFormat) (width height : UInt32) (planes : List Plane) :
    (m.makeSurface memory format width height planes).1.ref ≠ r := by
  obtain ⟨_, -, ref_eq, -⟩ := makeSurface_surfaces m memory format width height planes
  rw [ref_eq]
  exact Arena.add_ne_of_some found _

theorem Has.makeSurface (has : m.Has s planes) (memory : MemoryType) (format : SurfaceFormat)
    (width height : UInt32) (new : List Plane) :
    (m.makeSurface memory format width height new).2.Has s planes := by
  obtain ⟨_, -, -, surfaces_eq⟩ := makeSurface_surfaces m memory format width height new
  unfold Has at has ⊢
  -- Every surface has a state, so that arena always grows; of the arenas of native objects only
  -- the one of this memory does.
  cases backing : s.backing with
  | own =>
    simp only [backing] at has ⊢
    obtain ⟨state, found, same⟩ := Option.map_eq_some_iff.1 has
    rw [surfaces_eq, Arena.get?_add_of_some found, Option.map_some, same]
  | slice texture index =>
    simp only [backing, slice?] at has ⊢
    obtain ⟨state, found, slice⟩ := Option.bind_eq_some_iff.1 has
    cases memory with
    | dx11 => exact Option.bind_eq_some_iff.2 ⟨state, Arena.get?_add_of_some found _, slice⟩
    | _ => exact has
  | dx9 picture =>
    simp only [backing] at has ⊢
    cases memory with
    | dx9 => exact Arena.get?_add_of_some has _
    | _ => exact has

theorem makeSurface_of_allocSurface {n : Media} {context : MemoryType}
    (made : m.allocSurface context memory format width height = .ok (s, n)) :
    ∃ planes, m.makeSurface memory format width height planes = (s, n) := by
  unfold Media.allocSurface at made
  cases allocated : allocation context memory format width height with
  | error failure =>
    rw [allocated] at made
    cases made
  | ok shapes =>
    rw [allocated] at made
    exact ⟨_, Except.ok.inj made⟩

theorem allocSurface_error {context : MemoryType} {status : Status}
    (refused : m.allocSurface context memory format width height = .error (.refused status)) :
    status ∈ [Status.notSupported, .invalidResolution, .formatNotSupported] := by
  unfold Media.allocSurface Media.allocation SurfaceFormat.allocation at refused
  split at refused
  · cases refused
    decide
  · split at refused
    · cases refused
      decide
    · split at refused
      · cases refused
        decide
      · -- What there is no room for is not refused.
        unfold Attempt.room at refused
        split at refused <;> cases refused

theorem Has.setPlanes (has : m.Has s planes) (new : List Plane) :
    (m.setPlanes s new).Has s new := by
  unfold Has at has ⊢
  cases backing : s.backing with
  | own =>
    simp only [backing] at has
    obtain ⟨state, found, -⟩ := Option.map_eq_some_iff.1 has
    simp only [Media.setPlanes, backing, modifySurface, Arena.get?_modify_self, found,
      Option.map_some]
  | slice texture index =>
    simp only [backing, slice?] at has
    obtain ⟨state, found, slice⟩ := Option.bind_eq_some_iff.1 has
    have inside : index < state.slices.length := (List.getElem?_eq_some_iff.1 slice).1
    simp only [Media.setPlanes, backing, slice?, Arena.get?_modify_self, found,
      Option.map_some, Option.bind_some, List.getElem?_set_self inside]
  | dx9 picture =>
    simp only [backing] at has
    simp only [Media.setPlanes, backing, Arena.get?_modify_self, has, Option.map_some]

theorem Has.modifySurface (has : m.Has s planes) {f : SurfaceState → SurfaceState}
    (keeps : ∀ state, (f state).planes = state.planes) (t : Surface) :
    (m.modifySurface t f).Has s planes := by
  refine has.of_eq ?_ rfl rfl
  -- Two surfaces with one reference are the same object, whatever else they say.
  by_cases same : t.ref = s.ref
  · simp only [Media.modifySurface, same, Arena.get?_modify_self, Option.map_map,
      Function.comp_def, keeps]
  · simp only [Media.modifySurface, Arena.get?_modify_of_ne same]

theorem Has.modifySurface_of_ne (has : m.Has s planes) (other : t.ref ≠ s.ref)
    (f : SurfaceState → SurfaceState) : (m.modifySurface t f).Has s planes := by
  refine has.of_eq ?_ rfl rfl
  simp only [Media.modifySurface, Arena.get?_modify_of_ne other]

theorem Has.setPts (has : m.Has s planes) (t : Surface) (pts : Int64) :
    (m.setPts t pts).Has s planes :=
  has.modifySurface (f := fun state => { state with pts }) (fun _ => rfl) t

theorem Has.release (has : m.Has s planes) (other : t.ref ≠ s.ref) :
    (m.release t).Has s planes := by
  unfold Media.release
  split
  · split
    · exact has.modifySurface_of_ne other _
    · exact has.modifySurface_of_ne other _
  · exact has

end VideoScaler.Media
