import CallAudio.CommandLine.Help
import CallAudio.Scenario.Play
import CallAudio.Settings.Storage
import CallAudio.Toml.Printer

/-! # The command line tool

The tool loads the settings, which writes them where there are none, and carries out one task. It
works in any store of files.
-/

namespace CallAudio.CommandLine

structure Outcome where
  code : Nat
  /-- The log, which is written to standard output before anything is printed there. -/
  log : List LogLine
  printed : List String
  /-- What is said on standard error, if anything is. -/
  complaint : Option String
  deriving DecidableEq

namespace Outcome

def success (printed : List String) : Outcome := ⟨0, [], printed, none⟩

/-- A task that could not be finished; what it printed before stays. -/
def failure (printed : List String) (reason : String) : Outcome :=
  ⟨1, [], printed, some ("Error: " ++ reason)⟩

def after (lines : List LogLine) (outcome : Outcome) : Outcome :=
  { outcome with log := lines ++ outcome.log }

def limited (limit : LogLevel) (outcome : Outcome) : Outcome :=
  { outcome with log := outcome.log.filter fun line => limit.admits line.level }

def ofHalt : Halt → Outcome
  | .help topic => success topic.lines
  | .version => success ["audio-route-switch " ++ version]
  | .nothing => ⟨2, [], [], some ("\n".intercalate Topic.tool.lines)⟩
  | .misuse reason => ⟨2, [], [], some ("error: " ++ reason.message)⟩

end Outcome

open Outcome

def checkSettings (path : Path) (settings : Settings) : Outcome :=
  let place := "Configuration: " ++ path.text
  after [.info "Validating configuration" []] <|
    if settings.level?.isNone then failure [place] settings.levelComplaint
    else match settings.switchConfig with
      | .error error => failure [place] error.message
      | .ok config => success [place,
          "  ✓ Log level: " ++ settings.logLevel,
          "  ✓ Preferred order: " ++ config.order.text,
          "  ✓ SCO timeout: " ++ toString config.linkTimeout ++ "ms",
          "  ✓ Manage audio mode: " ++ flagText config.managesAudio]

def showOrder (settings : Settings) : Outcome :=
  match settings.order with
  | .error error => failure [] error.message
  | .ok order => success (order.kinds.zipIdx.map fun (kind, rank) =>
      "  " ++ toString (rank + 1) ++ ". " ++ kind.name)

def simulate (settings : Settings) (verbose : Bool) (text : String) : Outcome :=
  match Scenario.ofText? text with
  | none => failure [] Scenario.complaint
  | some scenario =>
    match settings.switchConfig with
    | .error error => failure [] error.message
    | .ok config =>
      let config := { config with logging := config.logging || verbose }
      let play := scenario.play config
      after (.info "Running scenario" [("steps", toString scenario.steps.length)] ::
        play.switch.host.log) (success (play.outputs.map Output.text))

variable {m : Type → Type} [Monad m] [FileStore m]

def perform (path : Path) (settings : Settings) (verbose : Bool) : Task → m Outcome
  | .checkSettings => pure (checkSettings path settings)
  | .showOrder => pure (showOrder settings)
  | .showVersion => pure (success [version])
  | .simulate scenario => do
    match ← FileStore.read scenario with
    | .error _ => return failure [] ("Failed to read scenario " ++ scenario.text)
    | .ok text => return simulate settings verbose text

/-- Runs the tool. The log level is not looked at if the log is verbose anyway. -/
def run (home : Path) (arguments : List String) : m Outcome := do
  match Request.ofArguments arguments with
  | .error halt => return ofHalt halt
  | .ok request =>
    let path := request.options.settings.getD (Settings.usualPath home)
    match (← Settings.load path).1 with
    | .error error => return failure [] error.message
    | .ok settings =>
      match if request.options.verbose then some .debug else settings.level? with
      | none => return failure [] settings.levelComplaint
      | some limit =>
        return (← perform path settings request.options.verbose request.task).limited limit

end CallAudio.CommandLine
