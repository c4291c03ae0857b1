import CallAudio.Path
import CallAudio.Text.Control

/-! # Requests on the command line

A request is a verb with its operands; options may stand before the verb and after it, and what
stands after it wins. Letters behind one hyphen are read one by one. After two hyphens alone
everything is an operand.

A value that stands as an argument of its own is judged when the next argument has been understood,
or at the end; an argument that is not understood is complained of first. What stands after the
verb is judged before what stands in front of it.
-/

namespace CallAudio.CommandLine

inductive Task
  | simulate (scenario : Path)
  | checkSettings
  | showOrder
  | showVersion
  deriving DecidableEq

structure Options where
  verbose : Bool
  jsonLogs : Bool
  settings : Option Path
  deriving DecidableEq

structure Request where
  task : Task
  options : Options
  deriving DecidableEq

inductive Verb
  | simulate
  | checkSettings
  | showOrder
  | showVersion
  deriving DecidableEq

inductive Topic
  | tool
  | verb (verb : Verb)
  | help
  deriving DecidableEq

def Topic.ofWord? : String → Option Topic
  | "simulate" => some (verb .simulate)
  | "check-config" => some (verb .checkSettings)
  | "show-order" => some (verb .showOrder)
  | "version" => some (verb .showVersion)
  | "help" => some help
  | _ => none

inductive Misuse
  | unexpected (argument : String)
  /-- An option that takes no value has one. -/
  | unexpectedValue (value option : String)
  | unknownVerb (word : String)
  | repeated (option : String)
  | missingValue (place : String)
  | missingOperand
  | missingVerb
  deriving DecidableEq

def Misuse.message : Misuse → String
  | unexpected argument => "unexpected argument '" ++ withoutControls argument ++ "' found"
  | unexpectedValue value option =>
    "unexpected value '" ++ withoutControls value ++ "' for '" ++ option ++
      "' found; no more were expected"
  | unknownVerb word => "unrecognized subcommand '" ++ withoutControls word ++ "'"
  | repeated option => "the argument '" ++ option ++ "' cannot be used multiple times"
  | missingValue place => "a value is required for '" ++ place ++ "' but none was supplied"
  | missingOperand => "the following required arguments were not provided:"
  | missingVerb => "'audio-route-switch' requires a subcommand but one was not provided"

inductive Halt
  | help (topic : Topic)
  | version
  /-- Neither a verb nor an option is there. -/
  | nothing
  | misuse (reason : Misuse)
  deriving DecidableEq

namespace Options

def none : Options := ⟨false, false, .none⟩

def settingsPlace : String := "--config <CONFIG>"

def setVerbose (options : Options) : Except Misuse Options :=
  if options.verbose then .error (.repeated "--verbose")
  else .ok { options with verbose := true }

def setJsonLogs (options : Options) : Except Misuse Options :=
  if options.jsonLogs then .error (.repeated "--json-logs")
  else .ok { options with jsonLogs := true }

def setSettings (path : String) (options : Options) : Except Misuse Options :=
  if options.settings.isSome then .error (.repeated settingsPlace)
  else if path = "" then .error (.missingValue settingsPlace)
  else .ok { options with settings := some ⟨path⟩ }

def merge (before after : Options) : Options where
  verbose := before.verbose || after.verbose
  jsonLogs := before.jsonLogs || after.jsonLogs
  settings := after.settings <|> before.settings

end Options

inductive Flag
  | verbose
  | jsonLogs
  | help
  | version
  deriving DecidableEq

namespace Flag

def word : Flag → String
  | verbose => "verbose"
  | jsonLogs => "json-logs"
  | help => "help"
  | version => "version"

def letter? : Flag → Option Char
  | verbose => some 'v'
  | jsonLogs => none
  | help => some 'h'
  | version => some 'V'

/-- The flags that are known behind a verb, or before there is one. The version can be asked for
before a verb only. -/
def known (verb : Option Verb) : List Flag :=
  if verb.isSome then [verbose, jsonLogs, help] else [verbose, jsonLogs, help, version]

end Flag

inductive Pending
  /-- The path of the settings, or the option that is still to get one. -/
  | settings (path : Option String)
  | scenario (path : String)
  deriving DecidableEq

structure Side where
  options : Options
  scenario : Option Path
  pending : Option Pending
  /-- Whether two hyphens alone have been read. -/
  operandsOnly : Bool
  deriving DecidableEq

namespace Side

def start : Side := ⟨.none, none, none, false⟩

def settle (side : Side) : Except Misuse Side :=
  match side.pending with
  | none => .ok side
  | some (.settings none) => .error (.missingValue Options.settingsPlace)
  | some (.settings (some path)) =>
    (side.options.setSettings path).map ({ side with options := ·, pending := none })
  | some (.scenario path) =>
    if path = "" then .error (.missingValue "<SCENARIO>")
    else .ok { side with scenario := some ⟨path⟩, pending := none }

def misuse {α : Type} (reason : Misuse) : Except Halt α := .error (.misuse reason)

def settled {α : Type} (side : Side) (go : Side → Except Halt α) : Except Halt α :=
  match side.settle with
  | .error reason => misuse reason
  | .ok side => go side

def change (side : Side) (change : Options → Except Misuse Options) : Except Halt Side :=
  side.settled fun side =>
    match change side.options with
    | .error reason => misuse reason
    | .ok options => .ok { side with options }

def raise (side : Side) (verb : Option Verb) : Flag → Except Halt Side
  | .verbose => side.change Options.setVerbose
  | .jsonLogs => side.change Options.setJsonLogs
  | .help => side.settled fun _ => .error (.help ((verb.map .verb).getD .tool))
  | .version => side.settled fun _ => .error .version

def awaitSettings (side : Side) : Except Halt Side :=
  side.settled fun side => .ok { side with pending := some (.settings none) }

def letters (side : Side) (verb : Option Verb) : List Char → Except Halt Side
  | [] => .ok side
  | letter :: rest =>
    if letter = 'c' then
      match rest with
      | [] => side.awaitSettings
      | '=' :: path => side.change (Options.setSettings (String.ofList path))
      | path => side.change (Options.setSettings (String.ofList path))
    else match (Flag.known verb).find? (·.letter? = some letter) with
      | some flag => do (← side.raise verb flag).letters verb rest
      | none => misuse (.unexpected (String.ofList ['-', letter]))

def word (side : Side) (verb : Option Verb) (name : String) (value : Option String) :
    Except Halt Side :=
  if name = "config" then
    match value with
    | none => side.awaitSettings
    | some path => side.change (Options.setSettings path)
  else match (Flag.known verb).find? (·.word = name), value with
    | some flag, none => side.raise verb flag
    | some flag, some value => misuse (.unexpectedValue value ("--" ++ flag.word))
    | none, _ => misuse (.unexpected ("--" ++ name))

/-- Reads an argument that could be an option. All that begin with a hyphen could, apart from
the single hyphen. -/
def option? (side : Side) (verb : Option Verb) (argument : String) : Option (Except Halt Side) :=
  match argument.toList with
  | ['-', '-'] => some (.ok { side with operandsOnly := true })
  | '-' :: '-' :: text =>
    let name := String.ofList (text.takeWhile (· ≠ '='))
    some (side.word verb name ((text.dropWhile (· ≠ '=')).tail?.map String.ofList))
  | '-' :: letter :: rest => some (side.letters verb (letter :: rest))
  | _ => none

def hasScenario (side : Side) : Bool :=
  side.scenario.isSome || side.pending matches some (.scenario _)

def operand (side : Side) (verb : Verb) (argument : String) : Except Halt Side :=
  if verb = .simulate && !side.hasScenario then
    side.settled fun side => .ok { side with pending := some (.scenario argument) }
  else misuse (.unexpected argument)

/-- Reads one argument; `other` reads what is no option and no value of one. -/
def next (side : Side) (verb : Option Verb) (argument : String)
    (other : Unit → Except Halt Side) : Except Halt Side :=
  if side.operandsOnly then other ()
  else match side.option? verb argument, side.pending with
    | some outcome, _ => outcome
    | none, some (.settings none) => .ok { side with pending := some (.settings (some argument)) }
    | none, _ => other ()

def task (side : Side) : Verb → Except Halt Task
  | .simulate =>
    match side.scenario with
    | some scenario => .ok (.simulate scenario)
    | none => misuse .missingOperand
  | .checkSettings => .ok .checkSettings
  | .showOrder => .ok .showOrder
  | .showVersion => .ok .showVersion

end Side

inductive Reading
  | before (side : Side)
  | after (before : Side) (verb : Verb) (after : Side)
  /-- The word that asks for help has been read, and perhaps what about. -/
  | help (topic : Topic)
  deriving DecidableEq

namespace Reading

open Side

/-- Reads one argument. What follows the word for help is taken as it is, and only the first of it
can be a topic. -/
def next (reading : Reading) (argument : String) : Except Halt Reading :=
  match reading, Topic.ofWord? argument with
  | .help .tool, some topic => .ok (.help topic)
  | .help _, _ => misuse (.unknownVerb argument)
  | .after front verb side, _ =>
    (side.next (some verb) argument fun _ => side.operand verb argument).map (.after front verb)
  | .before side, topic =>
    if side.operandsOnly then
      misuse (if topic.isSome then .unexpected argument else .unknownVerb argument)
    else if side.pending = some (.settings none) then
      (side.next none argument fun _ => misuse (.unknownVerb argument)).map .before
    else match topic with
      | some (.verb verb) => .ok (.after side verb .start)
      | some _ => .ok (.help .tool)
      | none => (side.next none argument fun _ => misuse (.unknownVerb argument)).map .before

def finish : Reading → Except Halt Request
  | .help topic => .error (.help topic)
  | .before side => side.settled fun side =>
    if side.options = .none then .error .nothing else misuse .missingVerb
  | .after front verb side => side.settled fun side => do
    let task ← side.task verb
    front.settled fun front => .ok ⟨task, front.options.merge side.options⟩

end Reading

def Request.ofArguments (arguments : List String) : Except Halt Request := do
  (← arguments.foldlM Reading.next (.before .start)).finish

end CallAudio.CommandLine
