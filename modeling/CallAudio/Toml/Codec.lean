import CallAudio.Toml.Value

/-! # What is relied on to read and write TOML

Scenarios and settings are read from the value of a document. Settings are written as sections,
which are tables with headers of their own that hold texts, flags, numbers and lists of texts. A
codec does both; it is lawful if it reads back what it writes and refuses just the numbers that are
no integers of TOML.
-/

namespace CallAudio.Toml

inductive Entry
  | text (content : String)
  | flag (on : Bool)
  | number (number : Nat)
  | texts (items : List String)

namespace Entry

def value : Entry → Value
  | .text content => .string content
  | .flag on => .boolean on
  | .number n => .integer n
  | .texts items => .array (items.map .string)

def fits : Entry → Bool
  | .number n => n ≤ 9223372036854775807
  | _ => true

end Entry

structure Section where
  name : String
  entries : List (String × Entry)

namespace Section

def value (part : Section) : Value :=
  .table (part.entries.map fun entry => (entry.1, entry.2.value))

def fits (part : Section) : Bool := part.entries.all fun entry => entry.2.fits

end Section

def Value.ofSections (sections : List Section) : Value :=
  .table (sections.map fun part => (part.name, part.value))

/-- Characters of a key that needs no quotes. -/
def isBareChar (c : Char) : Bool := c.isAlphanum || c = '_' || c = '-'

def IsBareKey (key : String) : Prop := key.toList ≠ [] ∧ key.toList.all isBareChar

instance (key : String) : Decidable (IsBareKey key) := inferInstanceAs (Decidable (_ ∧ _))

/-- Keys need no quotes, and none comes twice in its table. -/
structure IsPlain (sections : List Section) : Prop where
  names : (sections.map Section.name).Nodup
  bareNames : ∀ part ∈ sections, IsBareKey part.name
  keys : ∀ part ∈ sections, (part.entries.map Prod.fst).Nodup
  bareKeys : ∀ part ∈ sections, ∀ entry ∈ part.entries, IsBareKey entry.1

class Codec where
  read? : String → Option Value
  write? : List Section → Option String

structure Codec.Lawful (codec : Codec) : Prop where
  isSome_write?_iff : ∀ {sections : List Section}, IsPlain sections →
    ((codec.write? sections).isSome ↔ ∀ part ∈ sections, part.fits)
  read?_of_write? : ∀ {sections : List Section} {text : String}, IsPlain sections →
    codec.write? sections = some text → codec.read? text = some (.ofSections sections)

end CallAudio.Toml
