import VideoScaler.Error
import VideoScaler.Frame.Basic
import VideoScaler.Resolution

/-! Raw video: frames without padding that follow each other in a file.

Frames are read one at a time, each into a new array. A last frame that is not whole is left
out, and a limit on the number of frames may end the video before its bytes do.
-/

set_option autoImplicit false

namespace VideoScaler.CommandLine

structure RawVideo where
  format : PixelFormat
  size : Resolution
  data : Bytes
  /-- The bytes that have been read. -/
  position : Nat := 0
  /-- The number of the next frame is its time. -/
  time : Int64 := 0
  /-- How many more frames are wanted, if there is a limit. -/
  wanted : Option Nat := none

namespace RawVideo

def frameBytes (v : RawVideo) : Nat :=
  Format.packedBytes (v.format.shapes v.size.width.toNat v.size.height.toNat)

/-- The next frame, if there is one, and the video behind it. -/
def next? (v : RawVideo) : Attempt Error (Option (Frame × RawVideo)) := do
  if v.wanted = some 0 then return none
  -- The array is made before it shows how many bytes there are to read.
  Attempt.room [v.frameBytes]
  let stop := v.position + v.frameBytes
  if v.data.size < stop then return none
  return (Frame.ofPacked? v.format v.size.width v.size.height (v.data.extract v.position stop)).map
    fun f =>
      ({ f with pts := v.time },
        { v with
          position := stop
          time := v.time + 1
          wanted := v.wanted.map fun n => n - 1 })

/-- One frame more, or none and the end. The frames read so far are there in reverse. -/
def readOne : RawVideo × List Frame → (RawVideo × List Frame) ⊕ Attempt Error (List Frame)
  | (v, earlier) =>
    match v.next? with
    | .error failure => .inr (.error failure)
    | .ok none => .inr (.ok earlier.reverse)
    | .ok (some (f, rest)) => .inl (rest, f :: earlier)

/-- All frames still to come, behind those that were read before. Frames without bytes never
end. -/
def readAll (v : RawVideo) (earlier : List Frame) : Attempt Error (List Frame) :=
  Id.run (repeatM (fun reading => pure (readOne reading)) (v, earlier))

end RawVideo

end VideoScaler.CommandLine
