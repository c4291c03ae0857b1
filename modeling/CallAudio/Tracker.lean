import CallAudio.Host
import CallAudio.RoutingError

/-! # Tracking Bluetooth headsets

The tracker knows the connected headsets, the audio link to one of them and the headsets whose
link failed. A failed headset stays marked until it connects again or is chosen by hand, so that
automatic selection can pass over it.

How an event changes the tracker (`apply`), what it tells the application (`report?`) and what it
leaves in the log (`remarks`) are separate functions.
-/

namespace CallAudio

inductive Link
  | idle
  /-- Requested at the time `since` and not yet confirmed. -/
  | activating (address : String) (since : Nat)
  | active (address : String)
  deriving DecidableEq

def Link.address? : Link → Option String
  | idle => none
  | activating address _ => some address
  | active address => some address

structure Tracker where
  listening : Bool
  /-- Connected headsets, the latest connection first. -/
  headsets : List Headset
  link : Link
  /-- Addresses whose link failed, each once. -/
  failed : List String
  /-- How long a request for a link may stay unconfirmed, in milliseconds. -/
  timeout : Nat
  deriving DecidableEq

namespace Tracker

def idle (timeout : Nat) : Tracker := ⟨false, [], .idle, [], timeout⟩

def find? (tracker : Tracker) (address : String) : Option Headset :=
  tracker.headsets.find? (·.address = address)

def forget (tracker : Tracker) (address : String) : List Headset :=
  tracker.headsets.filter (·.address ≠ address)

def clearFailure (tracker : Tracker) (address : String) : Tracker :=
  { tracker with failed := tracker.failed.filter (· ≠ address) }

def forgive (tracker : Tracker) (device : Device) : Tracker :=
  match device.address? with
  | some address => if tracker.listening then tracker.clearFailure address else tracker
  | none => tracker

def markFailed (tracker : Tracker) (address : String) : Tracker :=
  { tracker with
    failed := if address ∈ tracker.failed then tracker.failed else address :: tracker.failed
    link := if tracker.link.address? = some address then .idle else tracker.link }

def markedLine (address : String) : LogLine :=
  .warn "Bluetooth SCO activation failed" [("address", address)]

/-- What an event means to the application: nothing, if it is about an unknown headset. -/
def report? (tracker : Tracker) : BluetoothEvent → Option HeadsetEvent
  | .connected headset => some ⟨.connected, .bluetoothHeadset headset⟩
  | .disconnected address =>
    (tracker.find? address).map fun headset => ⟨.disconnected, .bluetoothHeadset headset⟩
  | .audioConnected address =>
    (tracker.find? address).map fun headset => ⟨.audioConnected, .bluetoothHeadset headset⟩
  | .audioDisconnected address =>
    (tracker.find? address).map fun headset => ⟨.audioDisconnected, .bluetoothHeadset headset⟩
  | .audioFailed address =>
    (tracker.find? address).map fun headset => ⟨.activationError, .bluetoothHeadset headset⟩

/-- The tracker after an event. Only a connection brings in a headset that was unknown. -/
def apply (tracker : Tracker) (event : BluetoothEvent) : Tracker :=
  match event with
  | .connected headset =>
    { tracker.clearFailure headset.address with
      headsets := headset :: tracker.forget headset.address }
  | .disconnected address =>
    if (tracker.find? address).isNone then tracker else
      { tracker.clearFailure address with
        headsets := tracker.forget address
        link := if tracker.link.address? = some address then .idle else tracker.link }
  | .audioConnected address =>
    if (tracker.find? address).isNone then tracker else { tracker with link := .active address }
  | .audioDisconnected address =>
    if (tracker.find? address).isNone then tracker else
      { tracker with link := if tracker.link = .active address then .idle else tracker.link }
  | .audioFailed address =>
    if (tracker.find? address).isNone then tracker else tracker.markFailed address

def remarks (tracker : Tracker) (event : BluetoothEvent) : List LogLine :=
  let about (message : String) (address : String) : List LogLine :=
    match tracker.find? address with
    | some headset => [.debug message [("device", (Device.bluetoothHeadset headset).text)]]
    | none => []
  match event with
  | .connected headset =>
    [.debug "Bluetooth headset connected" [("device", (Device.bluetoothHeadset headset).text)]]
  | .disconnected address => about "Bluetooth headset disconnected" address
  | .audioConnected address => about "Bluetooth audio connected" address
  | .audioDisconnected address => about "Bluetooth audio disconnected" address
  | .audioFailed address =>
    if (tracker.find? address).isNone then [] else [markedLine address]

def deadline? (tracker : Tracker) : Option Nat :=
  match tracker.link with
  | .activating _ since => some (since + tracker.timeout)
  | _ => none

variable {σ : Type} [Platform σ]

/-- Begins to listen, which needs an adapter. A tracker that listens already is left alone. -/
def start (tracker : Tracker) (session : Nat) (host : Host σ) :
    Except RoutingError Unit × Tracker × Host σ :=
  if tracker.listening then
    (.ok (), tracker, host.write (.debug "Bluetooth tracker already listening" []))
  else if !Platform.adapterAvailable host.platform then
    (.error (.hardwareUnavailable "Bluetooth is not supported on this device"), tracker, host)
  else
    match host.startListening session with
    | .error reason => (.error (.hardwareUnavailable reason), tracker, host)
    | .ok host =>
      (.ok (), { tracker with listening := true },
        host.write (.info "Bluetooth headset tracking started" []))

def closeLink (tracker : Tracker) (host : Host σ) : Tracker × Host σ :=
  if tracker.link = .idle then (tracker, host)
  else
    ({ tracker with link := .idle },
      (host.write (.debug "Attempting to disable Bluetooth SCO" [])).issue .disableLink)

def stop (tracker : Tracker) (host : Host σ) : Tracker × Host σ :=
  if !tracker.listening then (tracker, host)
  else
    let (tracker, host) := tracker.closeLink host
    ({ tracker with listening := false, headsets := [], failed := [] },
      host.stopListening.write (.info "Bluetooth headset tracking stopped" []))

/-- Asks for a link while none is open. A headset whose request is refused is marked as failed. -/
def requestLink (tracker : Tracker) (address : String) (now : Nat) (host : Host σ) :
    Except RoutingError Unit × Tracker × Host σ :=
  let host := host.write (.debug "Attempting to enable Bluetooth SCO" [("address", address)])
  match host.enableLink address with
  | (.ok (), host) => (.ok (), { tracker with link := .activating address now }, host)
  | (.error reason, host) =>
    (.error (.linkFailed address), tracker.markFailed address,
      host.writeAll [.error "Platform rejected SCO request"
        [("address", address), ("error", reason)], markedLine address])

/-- Opens the link to a connected headset. A link to another headset is closed first. -/
def openLink (tracker : Tracker) (address : String) (now : Nat) (host : Host σ) :
    Except RoutingError Unit × Tracker × Host σ :=
  if tracker.link.address? = some address then
    (.ok (), tracker,
      host.write (.debug "SCO already active or activating" [("address", address)]))
  else if (tracker.find? address).isNone then
    (.error (.linkFailed address), tracker,
      host.write (.warn "Cannot activate a disconnected headset" [("address", address)]))
  else
    let closed := tracker.closeLink host
    closed.1.requestLink address now closed.2

/-- Opens the link to a device. Devices without an address need none. -/
def activate (tracker : Tracker) (device : Device) (now : Nat) (host : Host σ) :
    Except RoutingError Unit × Tracker × Host σ :=
  match device.address? with
  | some address => tracker.openLink address now host
  | none => (.ok (), tracker, host)

def checkTimeout (tracker : Tracker) (now : Nat) (host : Host σ) :
    Option HeadsetEvent × Tracker × Host σ :=
  match tracker.link with
  | .activating address since =>
    if now < since + tracker.timeout then (none, tracker, host)
    else
      ((tracker.find? address).map fun headset => ⟨.activationError, .bluetoothHeadset headset⟩,
        tracker.markFailed address,
        ((host.write (.warn "Timed out waiting for Bluetooth SCO" [("address", address)])).issue
          .disableLink).write (markedLine address))
  | _ => (none, tracker, host)

/-- The headsets to choose from: none while the tracker is not listening. -/
def visible (tracker : Tracker) : List Headset := if tracker.listening then tracker.headsets else []

def listening? (tracker : Tracker) : Option Tracker :=
  if tracker.listening then some tracker else none

/-- Begins to listen if Bluetooth is permitted; the permission is looked up each time. -/
def startPermitted (tracker : Tracker) (session : Nat) (host : Host σ) :
    Except RoutingError Unit × Tracker × Host σ :=
  if Platform.bluetoothPermitted host.platform then tracker.start session host
  else (.error .permissionDenied, tracker, host)

end Tracker

end CallAudio
