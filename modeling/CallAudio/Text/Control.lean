/-! # Text without control sequences

What a stream that is no terminal is given of a text. Control sequences and single controls are
left out, white space among the controls is not. Where white space interrupts a sequence, what
follows it shows up to the next control, and there the sequence goes on.
-/

namespace CallAudio

inductive ControlState
  | outside
  | escaped
  /-- Behind the escape character and characters that say what its meaning is. -/
  | selecting
  | parameters
  /-- At the front of a command for a device. -/
  | device
  | deviceParameters
  | deviceSelecting
  /-- In a text for the terminal that a bell ends. -/
  | title
  /-- In another text for the terminal, or in the text of a command for a device. -/
  | message
  deriving DecidableEq

namespace ControlState

def isBetween (low high : Char) (c : Char) : Bool := low ≤ c && c ≤ high

def isBlankControl (c : Char) : Bool :=
  c = '\t' || c = '\n' || c = '\x0c' || c = '\r'

/-- Whether the encoding of a character has the byte that ends a text for the terminal. -/
def endsMessage (c : Char) : Bool := (String.utf8EncodeChar c).contains 0x9C

def escape (c : Char) : ControlState :=
  match c with
  | '[' => parameters
  | ']' => title
  | 'P' => device
  | 'X' => message
  | '^' => message
  | '_' => message
  | c =>
    if isBetween ' ' '/' c then selecting
    else if isBetween '0' '~' c then outside
    else escaped

def next (state : ControlState) (c : Char) : ControlState :=
  if c = '\x1b' then escaped
  else if c = '\x18' || c = '\x1a' then outside
  else match state with
    | outside => outside
    | escaped => escape c
    | selecting => if isBetween '0' '~' c then outside else selecting
    | parameters => if isBetween '@' '~' c then outside else parameters
    | device =>
      if isBetween ' ' '/' c then deviceSelecting
      else if isBetween '0' '?' c then deviceParameters
      else if isBetween '@' '~' c then message
      else device
    | deviceParameters =>
      if isBetween ' ' '/' c then deviceSelecting
      else if isBetween '<' '~' c then message
      else deviceParameters
    | deviceSelecting => if isBetween '0' '~' c then message else deviceSelecting
    | title => if c = '\x07' then outside else title
    | message => if endsMessage c then outside else message

def admits (state : ControlState) (c : Char) : Bool :=
  match state with
  | outside => isBlankControl c || (' ' ≤ c && c ≠ '\x7f')
  | escaped => isBlankControl c
  | selecting => isBlankControl c
  | parameters => isBlankControl c
  | _ => false

/-- The characters that show if the text before them leaves `state`. Behind a character that
shows, more characters do than the state admits; one that is not ASCII ends the sequence. -/
def shown (behindShown : Bool) (state : ControlState) : List Char → List Char
  | [] => []
  | c :: rest =>
    if state.admits c || (behindShown && outside.admits c) then
      c :: shown true (if c ≤ '\x7f' then state else outside) rest
    else shown false (state.next c) rest

end ControlState

def withoutControls (text : String) : String :=
  String.ofList (ControlState.shown false .outside text.toList)

end CallAudio
