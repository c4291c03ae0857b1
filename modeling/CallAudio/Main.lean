import CallAudio.CommandLine

/-! # The program

The files of the computer as a store, and the tool run on them.
-/

namespace CallAudio

/-- The files of the computer. A file that may not be read is there all the same. -/
instance : FileStore IO where
  read path := do
    try return .ok (← IO.FS.readFile path.text)
    catch _ => return .error (.notReadable path)
  write path content := do
    try
      IO.FS.writeFile path.text content
      return .ok ()
    catch _ => return .error (.notWritable path)
  contains path := do
    try
      let _ ← IO.FS.readBinFile path.text
      return true
    catch
      | .permissionDenied .. => return true
      | _ => return false
  createDirectory path := do
    try
      if path.text ≠ "" then IO.FS.createDirAll path.text
      return .ok ()
    catch _ => return .error (.noDirectory path)

end CallAudio

def main (arguments : List String) : IO UInt32 := do
  let home := CallAudio.Settings.homeDirectory (← IO.getEnv "HOME")
  let outcome ← CallAudio.CommandLine.run (m := IO) home arguments
  for line in outcome.log.map CallAudio.LogLine.text ++ outcome.printed do
    IO.println line
  if let some complaint := outcome.complaint then
    IO.eprintln complaint
  return outcome.code.toUInt32
