import CallAudio.Host
import CallAudio.RoutingError
import CallAudio.Text.Blank

/-! # Tracking the headset jack -/

namespace CallAudio

structure WiredTracker where
  registered : Bool
  headset : Option String
  deriving DecidableEq

namespace WiredTracker

def idle : WiredTracker := ⟨false, none⟩

/-- The name under which a plugged headset appears: a usual one if its own is blank. -/
def shownName (name : String) : String := if isBlankText name then "Wired Headset" else name

def headsetAfter : WiredEvent → Option String
  | .plugged name => some (shownName name)
  | .unplugged => none

def apply (tracker : WiredTracker) (event : WiredEvent) : WiredTracker :=
  { tracker with headset := headsetAfter event }

def changes (tracker : WiredTracker) (event : WiredEvent) : Bool :=
  headsetAfter event ≠ tracker.headset

def device? (tracker : WiredTracker) : Option Device := tracker.headset.map .wiredHeadset

def remarks (tracker : WiredTracker) (event : WiredEvent) : List LogLine :=
  if tracker.changes event then
    match headsetAfter event with
    | some name =>
      [.debug "Wired headset connected" [("device", (Device.wiredHeadset name).text)]]
    | none => [.debug "Wired headset disconnected" []]
  else []

variable {σ : Type} [Platform σ]

def start (tracker : WiredTracker) (session : Nat) (host : Host σ) :
    Except RoutingError Unit × WiredTracker × Host σ :=
  if tracker.registered then (.ok (), tracker, host)
  else
    match host.registerWired session with
    | .error reason => (.error (.hardwareUnavailable reason), tracker, host)
    | .ok host =>
      let headset := (Platform.pluggedHeadset? host.platform).map shownName
      (.ok (), ⟨true, headset⟩,
        host.write (.debug "Wired headset receiver registered"
          [("plugged", flagText headset.isSome)]))

def stop (tracker : WiredTracker) (host : Host σ) : WiredTracker × Host σ :=
  (idle, if tracker.registered then host.unregisterWired else host)

end WiredTracker

end CallAudio
