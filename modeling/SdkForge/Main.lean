import SdkForge.Command.Session

/-!
# The command

`main` runs a session on the disk of the machine.
-/

namespace SdkForge

/-- Whether a path leads to something. -/
def isStored (path : String) : IO Bool := do
  try
    let _ ← IO.FS.realPath path
    return true
  catch _ => return false

/-- Writes a text, and makes the directories above it. -/
def storeText (path text : String) : IO WriteResult := do
  try
    if let some directory := Path.parent? path then
      if !directory.isEmpty then IO.FS.createDirAll directory
    IO.FS.writeFile path text
    return .written
  catch _ => return .failed

/-- The disk of the machine. -/
def machineDisk : Disk IO where
  read path := do
    try return some (← IO.FS.readFile path)
    catch _ => return none
  locate path := do
    try return toString (← IO.FS.realPath path)
    catch _ => return path
  write directory f := do
    let path := Path.join directory f.path
    if !f.rules.overwrite && (← isStored path) then return .kept
    storeText path f.contents

end SdkForge

def main (args : List String) : IO UInt32 := do
  let outcome ← SdkForge.Command.session SdkForge.machineDisk args
  (← IO.getStderr).putStr (SdkForge.Command.textOf outcome.complaints)
  (← IO.getStdout).putStr (SdkForge.Command.textOf outcome.out)
  return outcome.code.toUInt32
