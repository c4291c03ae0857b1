/-! # Log lines

A log line has a level, a message and named fields. Levels are also read from text: a name in
any case, or a number from 1 for `error` to 5 for `trace`.
-/

namespace CallAudio

inductive LogLevel
  | error
  | warn
  | info
  | debug
  | trace
  deriving DecidableEq

namespace LogLevel

def all : List LogLevel := [error, warn, info, debug, trace]

def name : LogLevel → String
  | error => "ERROR"
  | warn => "WARN"
  | info => "INFO"
  | debug => "DEBUG"
  | trace => "TRACE"

def number? (text : List Char) : Option Nat :=
  let digits := match text with
    | '+' :: rest => rest
    | _ => text
  if digits.isEmpty || digits.any (!·.isDigit) then none
  else some (digits.foldl (fun n c => 10 * n + (c.toNat - '0'.toNat)) 0)

def ofNumber? : Nat → Option LogLevel
  | 0 => none
  | n + 1 => all[n]?

/-- The level that a text names. Only ASCII letters have a second case here. -/
def ofText? (text : String) : Option LogLevel :=
  match (number? text.toList).bind ofNumber? with
  | some level => some level
  | none => all.find? (·.name.toList = text.toList.map Char.toUpper)

def rank : LogLevel → Nat
  | error => 0
  | warn => 1
  | info => 2
  | debug => 3
  | trace => 4

/-- Whether lines of `level` are written where `limit` is the least severe level wanted. -/
def admits (limit level : LogLevel) : Bool := level.rank ≤ limit.rank

end LogLevel

structure LogLine where
  level : LogLevel
  message : String
  fields : List (String × String)
  deriving DecidableEq

namespace LogLine

def error (message : String) (fields : List (String × String)) : LogLine :=
  ⟨.error, message, fields⟩

def warn (message : String) (fields : List (String × String)) : LogLine :=
  ⟨.warn, message, fields⟩

def info (message : String) (fields : List (String × String)) : LogLine :=
  ⟨.info, message, fields⟩

def debug (message : String) (fields : List (String × String)) : LogLine :=
  ⟨.debug, message, fields⟩

def text (line : LogLine) : String :=
  " ".intercalate
    (line.level.name :: line.message :: line.fields.map fun field => field.1 ++ "=" ++ field.2)

end LogLine

def flagText (flag : Bool) : String := if flag then "true" else "false"

end CallAudio
