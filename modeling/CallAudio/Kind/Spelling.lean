import CallAudio.Kind
import CallAudio.RoutingError
import CallAudio.Text.Blank
import CallAudio.Text.Lowercase

/-! # Free spellings of a kind

People may write a kind in capitals or small letters, with blanks, hyphens and underscores
anywhere, and in a short form. What counts is the word that the remaining letters spell.
-/

namespace CallAudio.Kind

def words : List (String × Kind) :=
  [("bluetoothheadset", bluetoothHeadset), ("bluetooth", bluetoothHeadset),
    ("wiredheadset", wiredHeadset), ("wired", wiredHeadset), ("earpiece", earpiece),
    ("speakerphone", speakerphone), ("speaker", speakerphone)]

def isFiller (c : Char) : Bool := c == '_' || c == '-' || isBlank c

def spelled (text : String) : List Char := lowercase (text.toList.filter (!isFiller ·))

def ofText? (text : String) : Option Kind :=
  let letters := spelled text
  (words.find? (·.1.toList = letters)).map (·.2)

/-- The kind that `text` spells; a text that spells none is returned unchanged in the error. -/
def ofText (text : String) : Except RoutingError Kind :=
  match ofText? text with
  | some kind => .ok kind
  | none => .error (.unknownKind text)

end CallAudio.Kind
