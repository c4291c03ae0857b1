import CallAudio.Toml.Document
import CallAudio.Log

/-! # Writing TOML

Sections with texts, numbers, flags and lists of texts as a reader of TOML takes them. A text is
written in the plainest form that needs no escapes, and escaped only if there is none.
-/

namespace CallAudio.Toml

namespace Printer

inductive Quoting
  | basic
  | literal
  | basicBlock
  | literalBlock
  deriving DecidableEq

/-- Control characters that can only be written as escapes. -/
def needsEscape (c : Char) : Bool := (c < ' ' && c ≠ '\t' && c ≠ '\n') || c = '\x7f'

def hasTriple (quote : Char) : List Char → Bool
  | a :: b :: c :: rest => (a = quote && b = quote && c = quote) || hasTriple quote (b :: c :: rest)
  | _ => false

/-- The plainest quoting of a text. A text of several lines is written over several lines. -/
def quoting (text : List Char) : Quoting :=
  let free := !text.any needsEscape
  let broken := '\n' ∈ text
  if free && !broken && '"' ∉ text && '\\' ∉ text then .basic
  else if free && !broken && '\'' ∉ text then .literal
  else if free && '\\' ∉ text && !hasTriple '"' text then .basicBlock
  else if free && !hasTriple '\'' text then .literalBlock
  else if broken then .basicBlock
  else .basic

def hexDigit (n : Nat) : Char := (Nat.digitChar n).toUpper

def escaped (c : Char) : List Char :=
  match Reader.escapes.find? (·.2 = c) with
  | some (letter, _) => ['\\', letter]
  | none =>
    if needsEscape c then ['\\', 'u', '0', '0', hexDigit (c.toNat / 16), hexDigit (c.toNat % 16)]
    else [c]

/-- The form of a text between three double quotes, after `run` quotes in a row. Line breaks stand
for themselves, and so do two quotes of any three. -/
def escapedBlock (run : Nat) : List Char → List Char
  | [] => []
  | c :: rest =>
    if c = '"' then
      if run = 2 then escaped c ++ escapedBlock 0 rest else c :: escapedBlock (run + 1) rest
    else (if c = '\n' then [c] else escaped c) ++ escapedBlock 0 rest

def opening (text : List Char) : List Char := if '\n' ∈ text then ['\n'] else []

def text (text : String) : List Char :=
  let chars := text.toList
  match quoting chars with
  | .basic => ['"'] ++ chars.flatMap escaped ++ ['"']
  | .literal => ['\''] ++ chars ++ ['\'']
  | .basicBlock => ['"', '"', '"'] ++ opening chars ++ escapedBlock 0 chars ++ ['"', '"', '"']
  | .literalBlock => ['\'', '\'', '\''] ++ opening chars ++ chars ++ ['\'', '\'', '\'']

def texts : List String → List Char
  | [] => ['[', ']']
  | [only] => ['['] ++ text only ++ [']']
  | many =>
    ['[', '\n'] ++ many.flatMap (fun item => "    ".toList ++ text item ++ [',', '\n']) ++ [']']

def flag (on : Bool) : List Char := (flagText on).toList

def header (name : String) : List Char := ['['] ++ name.toList ++ [']', '\n']

def pair (key : String) (value : List Char) : List Char :=
  key.toList ++ [' ', '=', ' '] ++ value ++ ['\n']

def entry : Entry → List Char
  | .text content => text content
  | .flag on => flag on
  | .number number => Nat.toDigits 10 number
  | .texts items => texts items

def part (part : Section) : List Char :=
  header part.name ++ part.entries.flatMap fun (key, value) => pair key (entry value)

/-- An empty line stands before each section but the first. -/
def document : List Section → List Char
  | [] => []
  | first :: rest => part first ++ rest.flatMap fun other => '\n' :: part other

def document? (sections : List Section) : Option String :=
  if sections.all Section.fits then some (String.ofList (document sections)) else none

end Printer

instance Codec.standard : Codec where
  read? := Value.ofText?
  write? := Printer.document?

end CallAudio.Toml
