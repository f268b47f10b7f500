/-! Status codes of the accelerator runtime. -/

set_option autoImplicit false

namespace VideoScaler

structure Status where
  code : Int32
  deriving DecidableEq, Repr

namespace Status

def ok : Status := ⟨0⟩
def fail : Status := ⟨1⟩
def unexpected : Status := ⟨2⟩
def invalidArg : Status := ⟨4⟩
def outOfMemory : Status := ⟨6⟩
def noInterface : Status := ⟨8⟩
def notImplemented : Status := ⟨9⟩
def notSupported : Status := ⟨10⟩
def notFound : Status := ⟨11⟩
def alreadyInitialized : Status := ⟨12⟩
def notInitialized : Status := ⟨13⟩
def invalidFormat : Status := ⟨14⟩
def wrongState : Status := ⟨15⟩
def noDevice : Status := ⟨17⟩
def endOfStream : Status := ⟨23⟩
def repeatLater : Status := ⟨24⟩
def inputFull : Status := ⟨25⟩
def invalidResolution : Status := ⟨29⟩
def formatNotSupported : Status := ⟨31⟩

def isOk (s : Status) : Bool :=
  s = ok

def names : List (Status × String) :=
  [(ok, "AMF_OK"), (fail, "AMF_FAIL"), (unexpected, "AMF_UNEXPECTED"),
    (invalidArg, "AMF_INVALID_ARG"), (outOfMemory, "AMF_OUT_OF_MEMORY"),
    (noInterface, "AMF_NO_INTERFACE"), (notImplemented, "AMF_NOT_IMPLEMENTED"),
    (notSupported, "AMF_NOT_SUPPORTED"), (notFound, "AMF_NOT_FOUND"),
    (alreadyInitialized, "AMF_ALREADY_INITIALIZED"), (notInitialized, "AMF_NOT_INITIALIZED"),
    (invalidFormat, "AMF_INVALID_FORMAT"), (wrongState, "AMF_WRONG_STATE"),
    (noDevice, "AMF_NO_DEVICE"), (endOfStream, "AMF_EOF"), (repeatLater, "AMF_REPEAT"),
    (inputFull, "AMF_INPUT_FULL"), (invalidResolution, "AMF_INVALID_RESOLUTION"),
    (formatNotSupported, "AMF_SURFACE_FORMAT_NOT_SUPPORTED")]

def name (s : Status) : String :=
  (names.lookup s).getD "AMF_UNKNOWN"

/-- A status is written as its code and, in parentheses, its name. -/
def text (s : Status) : String :=
  toString s.code.toInt ++ " (" ++ s.name ++ ")"

instance : ToString Status := ⟨text⟩

end Status

end VideoScaler
