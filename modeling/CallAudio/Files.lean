import CallAudio.Path

/-! # Stores of files

What settings and scenarios need of the place where files are kept.
-/

namespace CallAudio

inductive FileError
  /-- A rehearsal was told to refuse reading. -/
  | readRefused
  /-- A rehearsal was told to refuse writing. -/
  | writeRefused
  /-- A rehearsal has no such file. -/
  | notFound (path : Path)
  | notReadable (path : Path)
  | notWritable (path : Path)
  | noDirectory (path : Path)
  deriving DecidableEq

def FileError.message : FileError → String
  | readRefused => "Mock read failure"
  | writeRefused => "Mock write failure"
  | notFound path => "File not found: " ++ path.text
  | notReadable path => "Failed to read config file " ++ path.text
  | notWritable path => "Failed to write config file " ++ path.text
  | noDirectory path => "Failed to create config directory " ++ path.text

class FileStore (m : Type → Type) where
  read : Path → m (Except FileError String)
  write : Path → String → m (Except FileError Unit)
  /-- Whether there is a file under a path; a directory is no file. -/
  contains : Path → m Bool
  /-- Makes a directory and those around it, as far as they are missing. -/
  createDirectory : Path → m (Except FileError Unit)

end CallAudio
