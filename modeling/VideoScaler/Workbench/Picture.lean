import VideoScaler.Workbench.Answer
import VideoScaler.Workbench.Pattern

/-! Native pictures, surfaces and buffers at a workbench. -/

set_option autoImplicit false

namespace VideoScaler

/-- A native picture to make. The planes of every slice are laid out for the size to
allocate, which need not be the size of the picture. -/
structure PictureDescription where
  handle : UInt64
  format : SurfaceFormat
  width : UInt32
  height : UInt32
  allocWidth : UInt32
  allocHeight : UInt32
  slices : List (List Pattern)

structure PackedPlane where
  pattern : Pattern
  rowBytes : Nat
  rows : Nat

structure SurfaceDescription where
  memory : MemoryType
  format : SurfaceFormat
  width : UInt32
  height : UInt32
  planes : List Pattern
  crop : Option Rect
  pts : Int64

inductive PictureCommand where
  | texture (picture : PictureDescription) (name : String)
  | dx9 (picture : PictureDescription) (name : String)
  /-- Set private data of a texture, and read it back. -/
  | tag (texture : String) (key : Guid) (data : Bytes)
  | showTexture (texture : String) (index : Nat)
  | showDx9 (dx9 : String)
  | surface (context : String) (surface : SurfaceDescription) (name : String)
  /-- A surface in host memory made from given planes, which is not counted. -/
  | rawSurface (format : SurfaceFormat) (width height : UInt32) (planes : List PackedPlane)
      (crop : Option Rect) (name : String)
  | wrapTexture (context texture : String) (name : String)
  | wrapDx9 (context dx9 : String) (name : String)
  | crop (surface : String) (crop : Rect)
  | same (first second : String)
  | showSurface (surface : String)
  | describeSurface (surface : String)
  /-- A buffer that holds a surface, and counts its release if it is to notify. -/
  | buffer (surface : String) (notifies : Bool) (name : String)
  | release (buffer : String)
  | showBuffer (buffer : String)

def filledPlanes (format : SurfaceFormat) (width height : UInt32) (patterns : List Pattern) :
    Attempt Status (List Plane) :=
  (format.allocation width height).map fun shapes =>
    Plane.overlayAll (shapes.map Plane.zero) patterns

def PictureDescription.filledSlices (p : PictureDescription) :
    Attempt Status (List (List Plane)) :=
  p.slices.mapM (filledPlanes p.format p.allocWidth p.allocHeight)

def PackedPlane.toPlane (p : PackedPlane) : Plane :=
  .packed (p.pattern.bytes (p.rowBytes * p.rows)) p.rowBytes p.rows

def Media.setCropIfAny (m : Media) (s : Surface) : Option Rect → Media
  | some crop => m.setCrop s crop
  | none => m

def Media.addDescribed (m : Media) (context : MemoryType) (d : SurfaceDescription) :
    Attempt Status (Surface × Media) :=
  (m.allocSurface context d.memory d.format d.width d.height).map fun (s, m) =>
    let m := m.setPlanes s (Plane.overlayAll (m.planes s) d.planes)
    (s, (m.setCropIfAny s d.crop).setPts s d.pts)

namespace PictureCommand

variable {κ : Type} [Component κ]

def keepSurface (make : Media → Attempt Status (Surface × Media)) (name : String) :
    Action κ Answer := do
  let w ← Action.world
  let (s, media) ← Action.ofAttempt ((make w.media).mapRefusal .status)
  Action.setWorld { w with media }
  Action.store name (.surface s)
  return .done

def perform : PictureCommand → Action κ Answer
  | texture picture name => do
    let slices ← Action.ofAttempt (picture.filledSlices.mapRefusal .status)
    let t ← Action.onMedia fun m =>
      m.addTexture picture.handle picture.format picture.width picture.height slices
    Action.store name (.texture t)
    return .done
  | dx9 picture name => do
    let slices ← Action.ofAttempt (picture.filledSlices.mapRefusal .status)
    let s ← Action.onMedia fun m =>
      m.addDx9 picture.handle picture.format picture.width picture.height
        (slices.getLast?.getD [])
    Action.store name (.dx9 s)
    return .done
  | tag target key data => do
    let t ← Action.texture target
    let w ← Action.world
    let media := w.media.setPrivateData t key data
    Action.setWorld { w with media }
    return .bytes ((media.privateData? t key).getD #[])
  | showTexture shown index => do
    let t ← Action.texture shown
    return .texture (← Action.ofView ((← Action.world).viewTexture? t index))
  | showDx9 shown => do
    let s ← Action.dx9 shown
    return .dx9 (← Action.ofView ((← Action.world).viewDx9? s))
  | surface context description name => do
    let c ← Action.context context
    keepSurface (fun m => m.addDescribed c.memory description) name
  | rawSurface format width height planes region name => do
    let planes := planes.map PackedPlane.toPlane
    keepSurface (fun m =>
      let (s, m) := m.addSurface .host format width height .own planes false
      .ok (s, m.setCropIfAny s region)) name
  | wrapTexture context wrapped name => do
    let c ← Action.context context
    let t ← Action.texture wrapped
    keepSurface (fun m => .ofExcept (m.wrapTexture c.memory t)) name
  | wrapDx9 context wrapped name => do
    let c ← Action.context context
    let s ← Action.dx9 wrapped
    keepSurface (fun m => .ofExcept (m.wrapDx9 c.memory s)) name
  | crop target region => do
    let s ← Action.surface target
    Action.onMedia fun m => ((), m.setCrop s region)
    return .done
  | same first second => do
    let a ← Action.surface first
    let b ← Action.surface second
    return .flag (a.ref.index == b.ref.index)
  | showSurface shown => do
    Action.showSurface (← Action.surface shown)
  | describeSurface shown => do
    let s ← Action.surface shown
    return .text ((← Action.world).media.surfaceText s)
  | buffer held notifies name => do
    let s ← Action.surface held
    let b ← Action.onWorld fun w =>
      { w with media := w.media.retain s }.addBuffer s notifies
    Action.store name (.buffer b)
    return .done
  | release target => do
    let b ← Action.buffer target
    Action.onWorld fun w => ((), w.releaseBuffer b)
    return .done
  | showBuffer shown => do
    let b ← Action.buffer shown
    return .buffer ((← Action.world).viewBuffer b)

end PictureCommand

end VideoScaler
