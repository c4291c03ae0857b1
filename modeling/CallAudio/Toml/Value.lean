/-! # TOML values

The value of a TOML document. Floats and dates are kept as they are written: nothing here
computes with them.
-/

namespace CallAudio.Toml

inductive Value
  | string (text : String)
  | integer (number : Int)
  | float (literal : String)
  | boolean (flag : Bool)
  | date (literal : String)
  | array (items : List Value)
  | table (entries : List (String × Value))

namespace Value

def get? (value : Value) (key : String) : Option Value :=
  match value with
  | table entries => entries.lookup key
  | _ => none

def string? : Value → Option String
  | string text => some text
  | _ => none

def boolean? : Value → Option Bool
  | boolean flag => some flag
  | _ => none

def natural? : Value → Option Nat
  | integer (.ofNat n) => some n
  | _ => none

def array? : Value → Option (List Value)
  | array items => some items
  | _ => none

def strings? (value : Value) : Option (List String) := value.array?.bind (·.mapM string?)

/-- The fields of a record, by name. A record is a table whose keys are the names of its fields, or
an array that lists its fields in order; fields may be missing and other entries are ignored. A
date is a record without any field. -/
def record? (names : List String) : Value → Option (String → Option Value)
  | table entries => some fun name => entries.lookup name
  | array items => some fun name => items[names.idxOf name]?
  | date _ => some fun _ => none
  | _ => none

/-- Reads a field that has a default. A field that is present has to be readable. -/
def readOr {α : Type} (read : Value → Option α) (fallback : α) : Option Value → Option α
  | some value => read value
  | none => some fallback

end Value

end CallAudio.Toml
