import VideoScaler.Proofs.Filter.Payload
import VideoScaler.Proofs.Surface.Content

/-! What can be seen of a frame, and what dropping a frame leaves of the surfaces.

Two frames can look the same although they refer to different surfaces and buffers, be it in
one world or in two.
-/

set_option autoImplicit false

namespace VideoScaler

/-- The picture on a device that a frame refers to, as it is at the moment. A buffer that was
released shows none. -/
inductive PayloadContent where
  | amf (surface : Option SurfaceContent)
  | d3d11 (format : SurfaceFormat) (width height : UInt32) (index : Nat)
      (planes : Option (List Plane))
  | dxva2 (format : SurfaceFormat) (width height : UInt32) (planes : List Plane)

structure FrameContent where
  format : PixelFormat
  width : UInt32
  height : UInt32
  pts : Int64
  sar : Ratio
  color : ColorProperties
  metadata : List (String × String)
  planes : List FramePlane
  payload : Option PayloadContent

namespace World

def payloadContent (w : World) : Payload → PayloadContent
  | .amf buffer => .amf ((w.held? buffer).map w.media.content)
  | .d3d11 texture index =>
    .d3d11 texture.format texture.width texture.height index (w.media.slice? texture index)
  | .dxva2 picture =>
    .dxva2 picture.format picture.width picture.height ((w.media.dx9.get? picture.ref).getD [])

/-- All that can be seen of a frame: its fields, its samples, and the picture it refers to. -/
def content (w : World) (f : Frame) : FrameContent :=
  ⟨f.format, f.width, f.height, f.pts, f.sar, f.color, f.metadata, f.planes,
    f.payload.map w.payloadContent⟩

structure Knows (w : World) (f : Frame) : Prop where
  buffers : ∀ b ∈ f.buffers, ∃ state, w.buffers.get? b = some state ∧
    ∀ s, state.surface = some s → ∃ content crop pts, w.media.Presents s content crop pts
  picture : ∀ picture, f.payload = some (.dxva2 picture) →
    (w.media.dx9.get? picture.ref).isSome = true

variable {w : World} {b : FrameBuffer} {f : Frame} {s t : Surface}

theorem Knows.presents (known : w.Knows f) (member : b ∈ f.buffers) (held : w.held? b = some s) :
    ∃ content crop pts, w.media.Presents s content crop pts := by
  obtain ⟨state, found, there⟩ := known.buffers b member
  exact there s (by simpa only [held?, found, Option.bind_some] using held)

variable {content : SurfaceContent} {crop : Rect} {pts : Int64}

theorem presents_dropBuffer (presents : w.media.Presents t content crop pts)
    (apart : ∀ s, w.held? b = some s → s.ref ≠ t.ref) :
    (w.dropBuffer b).media.Presents t content crop pts := by
  unfold dropBuffer
  split
  · split
    · simp only [releaseBuffer]
      split
      case h_1 s held => exact presents.release (apart s held)
      case h_2 => exact presents
    · exact presents
  · exact presents

theorem presents_dropFrame (presents : w.media.Presents t content crop pts)
    (apart : ∀ b ∈ f.buffers, ∀ s, w.held? b = some s → s.ref ≠ t.ref) :
    (w.dropFrame f).media.Presents t content crop pts := by
  unfold dropFrame
  generalize f.buffers = buffers at apart
  induction buffers generalizing w with
  | nil => exact presents
  | cons first buffers ih =>
    refine ih (presents_dropBuffer presents (apart first List.mem_cons_self)) ?_
    intro b member s held
    exact apart b (List.mem_cons_of_mem _ member) s (held?_of_dropBuffer held)

end World

end VideoScaler
