import VideoScaler.Error
import VideoScaler.Number.Integer
import VideoScaler.Ratio
import VideoScaler.Text.Blank

/-! Picture sizes in pixels, and how sample shapes change between them. -/

set_option autoImplicit false

namespace VideoScaler

structure Resolution where
  width : UInt32
  height : UInt32
  deriving DecidableEq, Repr

namespace Resolution

instance : Inhabited Resolution := ⟨⟨1920, 1080⟩⟩

def pixels (r : Resolution) : Nat :=
  r.width.toNat * r.height.toNat

def aspect (r : Resolution) : Float :=
  r.width.toFloat / r.height.toFloat

def text (r : Resolution) : String :=
  toString r.width ++ "x" ++ toString r.height

def parse (s : String) : Except Error Resolution :=
  match Text.cutAt 'x' s.toList with
  | none => .error (.config (.resolutionText s))
  | some (w, h) =>
    match Number.readUnsigned? 4294967295 (Text.trimList w),
        Number.readUnsigned? 4294967295 (Text.trimList h) with
    | some w, some h => .ok ⟨UInt32.ofNat w, UInt32.ofNat h⟩
    | none, _ => .error (.config (.resolutionWidth s))
    | some _, none => .error (.config (.resolutionHeight s))

end Resolution

/-- The sample aspect ratio that keeps the shape of the picture when its size changes. An
unset ratio stays unset. -/
def Ratio.rescale (sar : Ratio) (source target : Resolution) : Ratio :=
  if sar.isSet then
    sar.mul (reduce (target.height.toUInt64.toInt64 * source.width.toUInt64.toInt64)
      (target.width.toUInt64.toInt64 * source.height.toUInt64.toInt64))
  else
    sar

end VideoScaler
