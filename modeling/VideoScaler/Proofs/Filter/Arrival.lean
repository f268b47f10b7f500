import VideoScaler.Filter.Bridge
import VideoScaler.Proofs.Surface.Content

/-! What can become of a frame that is brought onto a surface.

The outcomes are told apart once, with what decides between them and with the state that each one
leaves behind.
-/

set_option autoImplicit false

namespace VideoScaler

namespace Media

def tagged (m : Media) (texture : Texture) (index : Nat) : Media :=
  m.setPrivateData texture .arrayIndex (Number.fourBytes (Int32.ofNat index))

def wrapSlice (m : Media) (texture : Texture) (index : Nat) : Surface × Media :=
  (m.tagged texture index).addSurface .dx11 texture.format texture.width texture.height
    (.slice texture index) [] true

def wrapPicture (m : Media) (picture : Dx9Surface) : Surface × Media :=
  m.addSurface .dx9 picture.format picture.width picture.height (.dx9 picture) [] true

end Media

namespace Bridge

variable {texture : Texture} {index : Nat}

inductive Uploads (context : DeviceContext) (frame : Frame) (m : Media) :
    Attempt Error Surface × Media → Prop where
  | unknown (missing : SurfaceFormat.ofPixelFormat frame.format = .unknown) :
    Uploads context frame m (.error (.refused (.format (.noSurfaceFormat frame.format))), m)
  | unallocated {failure : Failure Status}
      (known : SurfaceFormat.ofPixelFormat frame.format ≠ .unknown)
      (failed : Media.allocation context.memory .host (.ofPixelFormat frame.format) frame.width
        frame.height = .error failure) :
    Uploads context frame m
      (.error (failure.map fun status => .resource (.allocSurface status)), m)
  | unfilled {shapes : List Format.Shape} {cause : FormatError}
      (known : SurfaceFormat.ofPixelFormat frame.format ≠ .unknown)
      (allocated : Media.allocation context.memory .host (.ofPixelFormat frame.format) frame.width
        frame.height = .ok shapes)
      (refused : upload frame shapes = .error cause) :
    Uploads context frame m (.error (.refused (.format cause)),
      (m.makeSurface .host (.ofPixelFormat frame.format) frame.width frame.height []).2.release
        (m.makeSurface .host (.ofPixelFormat frame.format) frame.width frame.height []).1)
  | filled {shapes : List Format.Shape} {planes : List Plane}
      (known : SurfaceFormat.ofPixelFormat frame.format ≠ .unknown)
      (allocated : Media.allocation context.memory .host (.ofPixelFormat frame.format) frame.width
        frame.height = .ok shapes)
      (accepted : upload frame shapes = .ok planes) :
    Uploads context frame m
      (.ok (m.makeSurface .host (.ofPixelFormat frame.format) frame.width frame.height planes).1,
        (m.makeSurface .host (.ofPixelFormat frame.format) frame.width frame.height planes).2)

inductive Wraps (context : DeviceContext) (frame : Frame) (texture : Texture) (index : Nat)
    (w : World) : Attempt Error Surface × World → Prop where
  | beyond (high : indexLimit < index) :
    Wraps context frame texture index w (.error (.refused (.internal (.textureIndex index))), w)
  | refused (status : Status) (within : index ≤ indexLimit)
      (lacks : context.memory ≠ .dx11 ∨ w.media.slice? texture index = none) :
    Wraps context frame texture index w
      (.error (.refused (.resource (.wrapTexture status))),
        { w with media := w.media.tagged texture index })
  | wrapped {planes : List Plane} (within : index ≤ indexLimit)
      (native : context.memory = .dx11) (slice : w.media.slice? texture index = some planes) :
    Wraps context frame texture index w
      (.ok (w.media.wrapSlice texture index).1, { w with
        media := mark frame (w.media.wrapSlice texture index).1
          (w.media.wrapSlice texture index).2 })

/-- What can become of a frame. -/
inductive Arrives (context : DeviceContext) (frame : Frame) (w : World) :
    Attempt Error Surface × World → Prop where
  | slice {texture : Texture} {index : Nat} {result : Attempt Error Surface × World}
      (payload : frame.payload = some (.d3d11 texture index))
      (wraps : Wraps context frame texture index w result) :
    Arrives context frame w result
  | lost {buffer : FrameBuffer} (payload : frame.payload = some (.amf buffer))
      (released : w.held? buffer = none) :
    Arrives context frame w (.error (.refused (.internal .bufferReleased)), w)
  | shared {buffer : FrameBuffer} {s : Surface} (payload : frame.payload = some (.amf buffer))
      (held : w.held? buffer = some s) :
    Arrives context frame w (.ok s, { w with media := mark frame s (w.media.retain s) })
  | foreign {picture : Dx9Surface} (payload : frame.payload = some (.dxva2 picture))
      (other : context.memory ≠ .dx9) :
    Arrives context frame w (.error (.refused (.resource (.wrapDx9 .wrongState))), w)
  | picture {picture : Dx9Surface} (payload : frame.payload = some (.dxva2 picture))
      (native : context.memory = .dx9) :
    Arrives context frame w (.ok (w.media.wrapPicture picture).1, { w with
      media := mark frame (w.media.wrapPicture picture).1 (w.media.wrapPicture picture).2 })
  | unread {failure : Failure Error} {m : Media} (payload : frame.payload = none)
      (uploads : Uploads context frame w.media (.error failure, m)) :
    Arrives context frame w (.error failure, { w with media := m })
  | copied {s : Surface} {m : Media} (payload : frame.payload = none)
      (uploads : Uploads context frame w.media (.ok s, m)) :
    Arrives context frame w (.ok s, { w with media := m.setPts s frame.pts })

theorem surfaceOfHost_uploads (context : DeviceContext) (frame : Frame) (m : Media) :
    Uploads context frame m (surfaceOfHost context frame m) := by
  unfold surfaceOfHost
  simp only
  split
  case isTrue missing => exact .unknown missing
  case isFalse known =>
    split
    case h_1 failed => exact .unallocated known failed
    case h_2 allocated =>
      split
      case h_1 accepted => exact .filled known allocated accepted
      case h_2 refused => exact .unfilled known allocated refused

theorem toSurface_wraps {frame : Frame} (payload : frame.payload = some (.d3d11 texture index))
    (context : DeviceContext) (w : World) :
    Wraps context frame texture index w (toSurface context frame w) := by
  simp only [toSurface, payload]
  by_cases high : indexLimit < index
  · rw [if_pos high]
    exact .beyond high
  have within : index ≤ indexLimit := Nat.le_of_not_lt high
  have wrapTexture_eq := w.media.wrapTexture_setPrivateData context.memory texture
    (Nat.lt_succ_of_le within)
  simp only [if_neg high, wrapTexture_eq]
  by_cases foreign : context.memory ≠ .dx11
  · rw [if_pos foreign]
    exact .refused _ within (.inl foreign)
  rw [if_neg foreign]
  cases slice : w.media.slice? texture index with
  | none => exact .refused _ within (.inr slice)
  | some planes => exact .wrapped within (Decidable.not_not.1 foreign) slice

theorem toSurface_arrives (context : DeviceContext) (frame : Frame) (w : World) :
    Arrives context frame w (toSurface context frame w) := by
  rcases payload : frame.payload with _ | ⟨buffer | ⟨texture, index⟩ | picture⟩
  case some.d3d11 => exact .slice payload (toSurface_wraps payload context w)
  case some.amf =>
    simp only [toSurface, payload]
    cases held : w.held? buffer with
    | none => exact .lost payload held
    | some s => exact .shared payload held
  case some.dxva2 =>
    simp only [toSurface, payload, Media.wrapDx9]
    by_cases other : context.memory ≠ .dx9
    · rw [if_pos other]
      exact .foreign payload other
    · rw [if_neg other]
      exact .picture payload (Decidable.not_not.1 other)
  case none =>
    have uploads := surfaceOfHost_uploads context frame w.media
    simp only [toSurface, payload]
    generalize surfaceOfHost context frame w.media = result at uploads ⊢
    rcases result with ⟨_ | _, m⟩
    · exact .unread payload uploads
    · exact .copied payload uploads

end Bridge

end VideoScaler
