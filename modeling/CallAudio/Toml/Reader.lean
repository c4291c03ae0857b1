/-! # Readers

A reader takes a value off the front of a text, or fails. The grammar of TOML is written in
readers; this module holds those that do not depend on it, then blanks, comments and line ends.
-/

namespace CallAudio.Toml

/-- What is still to be read of a text. The number of its characters is kept beside them, so that
a repetition sees at once whether something was read. -/
structure Source where
  chars : List Char
  size : Nat
  size_eq : size = chars.length

def Source.ofList (chars : List Char) : Source := ⟨chars, chars.length, rfl⟩

abbrev Reader (α : Type) := StateT Source Option α

namespace Reader

def char (accept : Char → Bool) : Reader Char
  | ⟨c :: rest, size, size_eq⟩ =>
    if accept c then some (c, ⟨rest, size - 1, by simp [size_eq]⟩) else none
  | _ => none

def exactly : List Char → Reader Unit
  | [] => pure ()
  | c :: word => do
    let _ ← char (· = c)
    exactly word

def span (accept : Char → Bool) : Reader (List Char) := fun source =>
  let front := source.chars.takeWhile accept
  some (front, ⟨source.chars.dropWhile accept, source.size - front.length, by
    have whole : front.length + (source.chars.dropWhile accept).length = source.chars.length := by
      rw [← List.length_append, List.takeWhile_append_dropWhile]
    have size_eq := source.size_eq
    omega⟩)

/-- Reads as often as `reader` succeeds and leaves a shorter text. -/
def many {α : Type} (reader : Reader α) : Reader (List α) := fun source =>
  match reader source with
  | none => some ([], source)
  | some (item, rest) =>
    if rest.size < source.size then
      (many reader rest).map fun result => (item :: result.1, result.2)
    else some ([], source)
termination_by source => source.size

def optional {α : Type} (reader : Reader α) : Reader (Option α) :=
  some <$> reader <|> pure none

def separated {α : Type} (item : Reader α) (separator : Reader Unit) : Reader (List α) := do
  let first ← item
  let rest ← many (separator *> item)
  pure (first :: rest)

def filtered {α : Type} (reader : Reader α) (test : α → Bool) : Reader α := do
  let item ← reader
  if test item then pure item else failure

def taken {α : Type} (reader : Reader α) : Reader String := fun source =>
  (reader source).map fun result =>
    (String.ofList (source.chars.take (source.size - result.2.size)), result.2)

def ending : Reader Unit := fun source =>
  if source.chars.isEmpty then some ((), source) else none

def isBlank (c : Char) : Bool := c = ' ' || c = '\t'

def isCommentChar (c : Char) : Bool := c = '\t' || (' ' ≤ c && c ≠ '\x7f')

def blanks : Reader Unit := do
  let _ ← span isBlank

def newline : Reader Unit := exactly ['\n'] <|> exactly ['\r', '\n']

def comment : Reader Unit := do
  exactly ['#']
  let _ ← span isCommentChar

def lineEnd : Reader Unit := do
  blanks
  let _ ← optional comment
  newline <|> ending

def space : Reader Unit := do
  let _ ← many (discard (char isBlank) <|> newline <|> comment)

end Reader

end CallAudio.Toml
