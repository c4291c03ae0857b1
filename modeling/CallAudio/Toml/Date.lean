import CallAudio.Toml.Quotes
import CallAudio.Toml.Value

/-! # Reading dates

A date, a date with a time of day and perhaps an offset from universal time, or a time of day
alone. The day has to exist in its month. Dates keep their spelling.
-/

namespace CallAudio.Toml.Reader

/-- A number of exactly `count` decimal digits that is at most `high`, after the digits that make
`value`. -/
def decimalNumber (high : Nat) : Nat → Nat → Reader Nat
  | 0, value => if value ≤ high then pure value else failure
  | count + 1, value => do
    let c ← char Char.isDigit
    decimalNumber high count (10 * value + (c.toNat - '0'.toNat))

def isLeapYear (year : Nat) : Bool := year % 4 = 0 && (year % 100 ≠ 0 || year % 400 = 0)

def daysIn (year month : Nat) : Nat :=
  if month = 2 then if isLeapYear year then 29 else 28
  else if month ∈ [4, 6, 9, 11] then 30
  else 31

def calendarDate : Reader Unit := do
  let year ← decimalNumber 9999 4 0
  exactly ['-']
  let month ← filtered (decimalNumber 12 2 0) (1 ≤ ·)
  exactly ['-']
  let _ ← filtered (decimalNumber (daysIn year month) 2 0) (1 ≤ ·)

/-- A time of day. A minute may have a leap second. -/
def timeOfDay : Reader Unit := do
  let _ ← decimalNumber 23 2 0
  exactly [':']
  let _ ← decimalNumber 59 2 0
  exactly [':']
  let _ ← decimalNumber 60 2 0
  let _ ← optional (exactly ['.'] *> char Char.isDigit *> span Char.isDigit)

def timeOffset : Reader Unit :=
  discard (char fun c => c = 'Z' || c = 'z') <|> do
    let _ ← char fun c => c = '+' || c = '-'
    let _ ← decimalNumber 23 2 0
    exactly [':']
    let _ ← decimalNumber 59 2 0

def timeOfDate : Reader Unit := do
  let _ ← char fun c => c = 'T' || c = 't' || c = ' '
  timeOfDay
  let _ ← optional timeOffset

def date : Reader Value :=
  Value.date <$> taken (calendarDate *> discard (optional timeOfDate) <|> timeOfDay)

end CallAudio.Toml.Reader
