import CallAudio.Toml.Reader

/-! # Reading quoted texts

A text stands between double quotes, where a backslash escapes, or between single quotes, where
nothing does. Between three quotes of either kind it may run over several lines; a line break
right after the opening quotes is not part of it, and one or two quotes in a row are.
-/

namespace CallAudio.Toml.Reader

def isBasicChar (c : Char) : Bool := isCommentChar c && c ≠ '"' && c ≠ '\\'

def isLiteralChar (c : Char) : Bool := isCommentChar c && c ≠ '\''

def hexValue? (c : Char) : Option Nat :=
  if c.isDigit then some (c.toNat - '0'.toNat)
  else if 'a' ≤ c && c ≤ 'f' then some (c.toNat - 'a'.toNat + 10)
  else if 'A' ≤ c && c ≤ 'F' then some (c.toNat - 'A'.toNat + 10)
  else none

/-- A number of exactly `count` hexadecimal digits, after the digits that make `value`. -/
def hexNumber : Nat → Nat → Reader Nat
  | 0, value => pure value
  | count + 1, value => do
    let c ← char fun c => (hexValue? c).isSome
    hexNumber count (16 * value + (hexValue? c).getD 0)

def charByNumber (count : Nat) : Reader Char := do
  let number ← hexNumber count 0
  if number.isValidChar then pure (Char.ofNat number) else failure

/-- The character after a backslash that stands for another, and that other. -/
def escapes : List (Char × Char) :=
  [('b', '\x08'), ('f', '\x0c'), ('n', '\n'), ('r', '\r'), ('t', '\t'), ('"', '"'), ('\\', '\\')]

def escape : Reader Char := do
  exactly ['\\']
  let c ← char fun _ => true
  match escapes.lookup c with
  | some meant => pure meant
  | none => if c = 'u' then charByNumber 4 else if c = 'U' then charByNumber 8 else failure

def basicText : Reader (List Char) := do
  exactly ['"']
  let text ← many (char isBasicChar <|> escape)
  exactly ['"']
  pure text

def literalText : Reader (List Char) := do
  exactly ['\'']
  let text ← span isLiteralChar
  exactly ['\'']
  pure text

/-- All the quotes in front, of which there have to be `low` to `high`. -/
def quoteRun (quote : Char) (low high : Nat) : Reader (List Char) :=
  filtered (span (· = quote)) fun run => low ≤ run.length && run.length ≤ high

/-- A text between three quotes. The quotes at its end belong to it as far as they are more than
three. -/
def blockText (quote : Char) (piece : Reader (List Char)) : Reader (List Char) := do
  exactly [quote, quote, quote]
  let _ ← optional newline
  let pieces ← many (piece <|> quoteRun quote 1 2)
  let closing ← quoteRun quote 3 5
  pure (pieces.flatten ++ closing.drop 3)

/-- A line break inside a text is always one line feed. -/
def innerNewline : Reader (List Char) := do
  newline
  pure ['\n']

/-- A backslash at the end of a line takes the line break away, and all blanks and line breaks
after it. -/
def continuation : Reader (List Char) := do
  exactly ['\\']
  blanks
  newline
  let _ ← many (discard (char isBlank) <|> newline)
  pure []

def basicBlock : Reader (List Char) :=
  blockText '"'
    (List.singleton <$> char isBasicChar <|> innerNewline <|> continuation <|>
      List.singleton <$> escape)

def literalBlock : Reader (List Char) :=
  blockText '\'' (List.singleton <$> char isLiteralChar <|> innerNewline)

def quotedText : Reader String :=
  String.ofList <$> (basicBlock <|> literalBlock <|> basicText <|> literalText)

end CallAudio.Toml.Reader
