import CallAudio.Kind

/-! # Why a request fails

The causes of failure in routing, and their wording.
-/

namespace CallAudio

inductive RoutingError
  | permissionDenied
  /-- Hardware is missing or disabled, usually the Bluetooth adapter. -/
  | hardwareUnavailable (reason : String)
  | invalidSelection (device : String)
  | focusDeclined
  /-- The audio link to the headset with this address was not opened. -/
  | linkFailed (address : String)
  /-- A preferred order names this kind more than once. -/
  | duplicatePreferred (kind : Kind)
  | unknownKind (text : String)
  | notStarted
  deriving DecidableEq

def RoutingError.message : RoutingError → String
  | permissionDenied => "Bluetooth unsupported, permissions not granted"
  | hardwareUnavailable reason => "Hardware unavailable: " ++ reason
  | invalidSelection device => "Audio device is not available: " ++ device
  | focusDeclined => "Audio focus request was declined"
  | linkFailed address => "Bluetooth SCO activation failed for " ++ address
  | duplicatePreferred kind =>
    "Preferred device list contains " ++ kind.name ++ " more than once"
  | unknownKind text => "Unknown audio device kind: '" ++ text ++ "'"
  | notStarted => "Audio switch has not been started"

end CallAudio
