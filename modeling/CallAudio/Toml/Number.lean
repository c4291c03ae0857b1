import CallAudio.Toml.Quotes
import CallAudio.Toml.Value

/-! # Reading numbers

Integers have 64 bits and a sign. They are written in decimal, or without a sign in another base
after `0x`, `0o` or `0b`. Floats keep their spelling; one whose value is too large for 64 bits of
floating point is refused, unless it is negative. An underscore may stand between two digits.
-/

namespace CallAudio.Toml.Reader

def digits (accept : Char → Bool) : Reader (List Char) := do
  let first ← char accept
  let rest ← many (optional (exactly ['_']) *> char accept)
  pure (first :: rest)

def digitsValue (base : Nat) (digits : List Char) : Nat :=
  digits.foldl (fun value c => base * value + (hexValue? c).getD 0) 0

def minInteger : Int := -9223372036854775808

def maxInteger : Int := 9223372036854775807

def fits (number : Int) : Bool := minInteger ≤ number && number ≤ maxInteger

/-- Whether a minus sign is in front. A plus sign is taken as well. -/
def sign : Reader Bool := (do exactly ['-']; pure true) <|> (do exactly ['+']; pure false) <|>
  pure false

/-- Decimal digits without a zero in front, except for zero itself. -/
def plainDigits : Reader (List Char) :=
  (do
    let _ ← exactly ['0']
    pure ['0']) <|> digits Char.isDigit

def decimalInteger : Reader Int := do
  let negative ← sign
  let value := (digitsValue 10 (← plainDigits) : Int)
  pure (if negative then -value else value)

/-- A number in another base, after the letter that names it. -/
def basedInteger (letter : Char) (base : Nat) : Reader Int := do
  exactly ['0', letter]
  let digits ← digits fun c => (hexValue? c).any (· < base)
  pure (digitsValue base digits)

def integer : Reader Value :=
  Value.integer <$> filtered
    (basedInteger 'x' 16 <|> basedInteger 'o' 8 <|> basedInteger 'b' 2 <|> decimalInteger) fits

def exponent : Reader Int := do
  let _ ← char fun c => c = 'e' || c = 'E'
  let negative ← sign
  let value := (digitsValue 10 (← digits Char.isDigit) : Int)
  pure (if negative then -value else value)

def fraction : Reader (List Char) := do
  exactly ['.']
  digits Char.isDigit

/-- Whether `digits` times ten to the power `scale` is nearer to two to the power 1024 than to
any float, or larger. From half a unit above the largest float on, a number is too large. -/
def overflows (digits : List Char) (scale : Int) : Bool :=
  let mantissa := digits.dropWhile (· = '0')
  let value := digitsValue 10 mantissa
  let limit := (Nat.pow 2 54 - 1) * Nat.pow 2 970
  let magnitude := mantissa.length + scale
  if mantissa.isEmpty || magnitude < 300 then false
  else if 310 < magnitude then true
  else match scale with
    | .ofNat n => limit ≤ value * Nat.pow 10 n
    | .negSucc n => limit * Nat.pow 10 (n + 1) ≤ value

def decimalFraction : Reader Bool := do
  let negative ← sign
  let whole ← plainDigits
  match ← optional fraction with
  | some part =>
    let power ← optional exponent
    pure (negative || !overflows (whole ++ part) (power.getD 0 - part.length))
  | none =>
    let power ← exponent
    pure (negative || !overflows whole power)

def specialFloat : Reader Unit := do
  let _ ← sign
  exactly ['i', 'n', 'f'] <|> exactly ['n', 'a', 'n']

def float : Reader Value :=
  Value.float <$> taken (discard (filtered decimalFraction id) <|> specialFloat)

end CallAudio.Toml.Reader
