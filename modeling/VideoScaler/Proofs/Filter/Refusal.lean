import VideoScaler.Proofs.Filter.Arrival

/-! The errors that come from bringing pictures over to surfaces and back. -/

set_option autoImplicit false

namespace VideoScaler

/-- Is an error about resources, formats, or the program itself? -/
def Error.IsOfPictures : Error → Prop
  | .resource _ | .format _ | .internal _ => True
  | _ => False

namespace Bridge

variable {context : DeviceContext} {x : Frame} {w : World} {e : Error}

theorem isOfPictures_of_toSurface (refused : (toSurface context x w).1 = .error (.refused e)) :
    e.IsOfPictures := by
  have arrived := toSurface_arrives context x w
  generalize toSurface context x w = result at arrived refused
  cases arrived with
  | slice _ wraps =>
    cases wraps <;> cases refused
    all_goals trivial
  | lost | foreign =>
    cases refused
    trivial
  | @unread failure _ _ uploads =>
    obtain rfl : failure = .refused e := Except.error.inj refused
    generalize same : (Except.error (Failure.refused e) : Attempt Error Surface) = result at uploads
    cases uploads with
    | @unallocated cause =>
      cases cause <;> cases same
      trivial
    | unknown | unfilled =>
      cases same
      trivial
    | filled => cases same
  | shared | picture | copied => cases refused

theorem isOfPictures_of_hostFrame {pool : FramePool} {s : Surface} {m : Media}
    (refused : hostFrame pool s m = .error (.refused e)) : e.IsOfPictures := by
  unfold hostFrame at refused
  simp only at refused
  split at refused
  · cases refused
    trivial
  split at refused
  case h_1 => cases refused
  case h_2 failure _ =>
    cases failure <;> cases refused
    trivial

theorem isOfPictures_of_toFrame {pool : FramePool} {s : Surface}
    (refused : (toFrame pool s w).1 = .error (.refused e)) : e.IsOfPictures := by
  unfold toFrame at refused
  split at refused
  case h_1 => cases refused
  case h_2 =>
    split at refused <;> cases refused
    trivial
  case h_3 =>
    split at refused <;> cases refused
    trivial
  case h_4 => exact isOfPictures_of_hostFrame refused

end Bridge

end VideoScaler
