import CallAudio.Toml.Codec
import CallAudio.Toml.Date
import CallAudio.Toml.Draft
import CallAudio.Toml.Number

/-! # Reading TOML documents

Values, keys and the lines of a document. Brackets of values nest less than eighty deep, and a
dotted key has less than eighty parts.
-/

namespace CallAudio.Toml

namespace Reader

def boolean : Reader Value :=
  (do exactly "true".toList; pure (Value.boolean true)) <|>
    (do exactly "false".toList; pure (Value.boolean false))

def scalar : Reader Value := Value.string <$> quotedText <|> date <|> float <|> integer <|> boolean

def array (item : Reader Value) : Reader Value := do
  exactly ['[']
  space
  let items ← optional (separated (item <* space) (exactly [','] *> space))
  if items.isSome then
    let _ ← optional (exactly [','] *> space)
  exactly [']']
  pure (.array (items.getD []))

def simpleKey : Reader String :=
  String.ofList <$> (basicText <|> literalText <|> filtered (span isBareChar) (!·.isEmpty))

/-- The largest number of parts in a key, and of brackets around a value. -/
def maxDepth : Nat := 79

/-- A key, with blanks around each part. The last part stands apart from the path to it. -/
def key : Reader (List String × String) := do
  let parts ← filtered (separated (blanks *> simpleKey <* blanks) (exactly ['.']))
    (·.length ≤ maxDepth)
  match parts.getLast? with
  | some last => pure (parts.dropLast, last)
  | none => failure

def pair (value : Reader Value) : Reader (List String × String × Value) := do
  let (path, key) ← key
  exactly ['=']
  blanks
  let value ← value
  pure (path, key, value)

def inlineTable (item : Reader Value) : Reader Value := do
  exactly ['\x7b']
  blanks
  let pairs ← optional (separated (pair item <* blanks) (exactly [',']))
  exactly ['\x7d']
  match Value.ofPairs? (pairs.getD []) with
  | some table => pure table
  | none => failure

/-- A value whose brackets nest at most `depth` deep. -/
def value : Nat → Reader Value
  | 0 => scalar
  | depth + 1 => scalar <|> array (value depth) <|> inlineTable (value depth)

def statement : Reader Statement :=
  (do
    exactly ['[', '[']
    let (path, key) ← key
    exactly [']', ']']
    lineEnd
    pure (.element path key)) <|>
  (do
    exactly ['[']
    let (path, key) ← key
    exactly [']']
    lineEnd
    pure (.table path key)) <|>
  (do
    let (path, key, value) ← pair (value maxDepth)
    lineEnd
    pure (.pair path key value))

def emptyLine : Reader Unit := do
  let _ ← optional comment
  newline <|> ending

def document : Reader (List Statement) := do
  let _ ← optional (exactly ['\ufeff'])
  blanks
  let statements ← many ((some <$> statement <|> (do emptyLine; pure none)) <* blanks)
  ending
  pure (statements.reduceOption)

end Reader

def Value.ofText? (text : String) : Option Value :=
  (Reader.document (.ofList text.toList)).bind fun result => ofStatements? result.1

end CallAudio.Toml
