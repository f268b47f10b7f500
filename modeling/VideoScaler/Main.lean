import VideoScaler.CommandLine.Basic

/-! The program: its arguments, the files of the system, and its two output streams. -/

set_option autoImplicit false

namespace VideoScaler.CommandLine

def attempt {α : Type} (action : IO α) : IO (Option α) := do
  try
    return some (← action)
  catch _ =>
    return none

def loadFile (path : String) : IO Bytes := do
  return (← IO.FS.readBinFile path).data

def systemDisk : Disk IO where
  load path := attempt (loadFile path)
  canOpen path := do
    return (← attempt (IO.FS.Handle.mk path .read)).isSome
  clear path := do
    return (← attempt (IO.FS.Handle.mk path .write)).isSome
  content path := do
    return (← attempt (loadFile path)).getD #[]
  save path bytes := IO.FS.writeBinFile path ⟨bytes⟩

end VideoScaler.CommandLine

open VideoScaler.CommandLine in
def main (args : List String) : IO UInt32 := do
  let outcome ← run systemDisk args
  outcome.lines.forM fun line => IO.println line
  outcome.complaint.forM fun complaint => IO.eprintln complaint
  return outcome.code.toUInt32
