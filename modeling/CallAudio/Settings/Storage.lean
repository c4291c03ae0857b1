import CallAudio.Files
import CallAudio.Settings

/-! # Keeping settings in a file

Loading reads the file and fails if it cannot be understood. Where there is no file, the usual
settings are loaded, and an attempt is made to write them for the user to change. Saving writes
the whole file or nothing.
-/

namespace CallAudio

inductive StorageError
  | notReadable (path : Path)
  | notUnderstood (path : Path)
  | notExpressible
  | file (error : FileError)
  deriving DecidableEq

def StorageError.message : StorageError → String
  | notReadable path => "Failed to read configuration file: " ++ path.text
  | notUnderstood path => "Failed to parse configuration file: " ++ path.text
  | notExpressible => "Failed to serialize configuration"
  | file error => error.message

namespace Settings

variable {m : Type → Type} [Monad m] [FileStore m] [Toml.Codec]

def prepare (path : Path) : m (Except FileError Unit) :=
  match path.parent? with
  | some directory => FileStore.createDirectory directory
  | none => pure (.ok ())

/-- Writes settings to a file. The directory is made first. -/
def save (path : Path) (settings : Settings) : ExceptT StorageError m Unit := do
  ExceptT.adapt .file (ExceptT.mk (prepare path))
  match settings.print? with
  | some text => ExceptT.adapt .file (ExceptT.mk (FileStore.write path text))
  | none => throw .notExpressible

def saveLog (path : Path) : Except StorageError Unit → List LogLine
  | .ok () => [.info "Configuration saved" [("path", path.text)]]
  | .error _ => []

def read (path : Path) : ExceptT StorageError m Settings := do
  let text ← ExceptT.adapt (fun _ => .notReadable path) (ExceptT.mk (FileStore.read path))
  match ofText? text with
  | some settings => return settings
  | none => throw (.notUnderstood path)

def load (path : Path) : m (Except StorageError Settings × List LogLine) := do
  let loading := LogLine.debug "Loading configuration" [("path", path.text)]
  if ← FileStore.contains path then
    return (← (read path).run, [loading])
  else
    let saved ← (save path usual).run
    let outcome := match saved with
      | .ok () => saveLog path saved
      | .error error => [.warn "Could not save default configuration"
          [("path", path.text), ("error", error.message)]]
    return (.ok usual,
      loading :: .info "Configuration file not found, using defaults" [] :: outcome)

/-- The home directory by the variable that names it. Where that is missing or empty, the home of
the superuser is taken. -/
def homeDirectory (named : Option String) : Path :=
  match named with
  | none => ⟨"/root"⟩
  | some home => if home = "" then ⟨"/root"⟩ else ⟨home⟩

def usualPath (home : Path) : Path := home.join ".config/audio-route-switch/config.toml"

def logDirectory (home : Path) : Path := home.join ".local/share/audio-route-switch/logs"

end Settings

end CallAudio
