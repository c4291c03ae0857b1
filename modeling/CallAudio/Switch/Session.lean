import CallAudio.Handset
import CallAudio.Switch.Callbacks

/-! # Using the switch

The operations of the application. Those that depend on the devices apply the waiting callbacks
first.
-/

namespace CallAudio.Switch

variable {σ : Type}

def setDeviceListener (switch : Switch σ) (listener : Option Nat) : Switch σ :=
  { switch with listeners := { switch.listeners with device := listener } }

def setHeadsetListener (switch : Switch σ) (listener : Option Nat) : Switch σ :=
  { switch with listeners := { switch.listeners with headset := listener } }

/-- Replaces the listener that goes with the next request for focus. -/
def setFocusListener (switch : Switch σ) (listener : Option Nat) : Switch σ :=
  { switch with route := { switch.route with focusListener := listener } }

def setLogging (switch : Switch σ) (on : Bool) : Switch σ :=
  { switch with host := { switch.host with logging := on } }

def receive (switch : Switch σ) (callback : Callback) : Switch σ :=
  { switch with host := switch.host.deliver callback }

def react (switch : Switch Handset) (action : HandsetAction) : Switch Handset :=
  { switch with host := switch.host.react action }

variable [Platform σ]

/-- Begins to track Bluetooth headsets; a failure only means that there are none. -/
def startBluetooth (switch : Switch σ) : Switch σ :=
  match switch.tracker.startPermitted switch.session switch.host with
  | (.ok (), tracker, host) => { switch with tracker, host }
  | (.error error, tracker, host) =>
    { switch with tracker, host }.write
      (.warn "Bluetooth headsets unavailable" [("error", error.message)])

def startWired (switch : Switch σ) : Switch σ :=
  match switch.wired.start switch.session switch.host with
  | (.ok (), wired, host) => { switch with wired, host }
  | (.error error, wired, host) =>
    { switch with wired, host }.write
      (.warn "Wired headset detection unavailable" [("error", error.message)])

/-- Applies the callbacks of registration, which belong to the first state and change nothing. -/
def absorb (switch : Switch σ) : Switch σ :=
  switch.host.queue.foldl (fun switch callback => (switch.applyCallback callback).2)
    { switch with host := { switch.host with queue := [] } }

def enter (switch : Switch σ) (listener : Option Nat) : Switch σ :=
  let switch := switch.write (.info "Starting audio switch" [("version", version)])
  let switch := if listener.isSome then switch.setDeviceListener listener else switch
  { switch with session := switch.session + 1, phase := .started }

/-- Starts a session. A listener replaces the present one and is told the first state. A switch
that runs already is left alone. -/
def start (switch : Switch σ) (listener : Option Nat) (now : Nat) : Switch σ :=
  if switch.phase ≠ .stopped then
    switch.write (.debug "Audio switch already started" [("state", switch.phase.name)])
  else
    let switch := (switch.enter listener).startBluetooth.startWired.absorb
    ((switch.recompute []).applyRoute now).notifyDevices

/-- Closes the session: forgets the devices, the waiting callbacks and the listener to device
changes. -/
def leave (switch : Switch σ) : Switch σ :=
  let tracker := switch.tracker.stop switch.host
  let wired := switch.wired.stop tracker.2
  { switch with
    phase := .stopped
    session := switch.session + 1
    tracker := tracker.1
    wired := wired.1
    selector := switch.selector.clear
    listeners := { switch.listeners with device := none }
    host := { wired.2 with queue := [] } }

def stop (switch : Switch σ) : Switch σ :=
  if switch.phase = .stopped then switch
  else (switch.write (.info "Stopping audio switch" [])).deactivateRoute.leave

def engage (switch : Switch σ) (now : Nat) : Except RoutingError Unit × Switch σ :=
  if switch.phase = .stopped then (.error .notStarted, switch)
  else
    let (result, route, host) := switch.route.activate switch.host
    let switch := { switch with phase := .activated, route, host }
    match result with
    | .error error =>
      (.ok (), switch.write
        (.warn "Activation side effects skipped" [("error", error.message)]))
    | .ok () => (.ok (), (switch.applyRoute now).announce switch.view)

/-- Takes audio focus and routes audio to the selected device. If focus is declined the switch
still counts as activated, and the next activation asks again. -/
def activate (switch : Switch σ) (now : Nat) : Except RoutingError Unit × Switch σ :=
  (switch.pumped now).engage now

def disengage (switch : Switch σ) : Switch σ :=
  if switch.phase ≠ .activated then switch
  else { switch.deactivateRoute with phase := .started }

def deactivate (switch : Switch σ) (now : Nat) : Switch σ := (switch.pumped now).disengage

def pinTo (switch : Switch σ) (device : Device) : Switch σ :=
  { switch with
    tracker := switch.tracker.forgive device
    selector := switch.selector.pin device }

def choose (switch : Switch σ) (device : Device) (now : Nat) : Switch σ :=
  if switch.phase = .stopped then
    switch.write (.warn "Ignoring selection on a stopped switch" [("device", device.text)])
  else if device ∉ switch.selector.available then
    switch.write (.warn "Ignoring selection"
      [("error", (RoutingError.invalidSelection device.text).message)])
  else
    (switch.pinTo device).refreshSince switch.view now

/-- Chooses an available device by hand. A headset that failed gets another chance. -/
def select (switch : Switch σ) (device : Device) (now : Nat) : Switch σ :=
  (switch.pumped now).choose device now

def unchoose (switch : Switch σ) (now : Nat) : Switch σ :=
  if switch.phase = .stopped ∨ switch.selector.pinned = false then switch
  else { switch with selector := switch.selector.clearPin }.refresh now

def clearSelection (switch : Switch σ) (now : Nat) : Switch σ := (switch.pumped now).unchoose now

/-- Whether a session runs without tracking of headsets although that is permitted now. -/
def resumable (switch : Switch σ) : Bool :=
  switch.phase ≠ .stopped && !switch.tracker.listening &&
    Platform.bluetoothPermitted switch.host.platform

def resume (switch : Switch σ) : Switch σ :=
  if switch.resumable then
    (switch.write (.info "Bluetooth permission granted, starting headset tracking" []))
      |>.startBluetooth
  else switch

/-- Begins to track headsets if that has become permitted while the application was away. -/
def hostResumed (switch : Switch σ) (now : Nat) : Switch σ :=
  if switch.resumable then switch.resume.pumped now else switch

end CallAudio.Switch
