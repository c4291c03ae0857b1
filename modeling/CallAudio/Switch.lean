import CallAudio.Listeners
import CallAudio.Route
import CallAudio.Selector
import CallAudio.Wired

/-! # The audio switch

The switch of one handset: the two trackers say what is connected, the selector says what should
be heard, and the route makes it heard. This module holds the state and the way from a change in
the trackers to a new selection, a new route and a notice to the application.

Times are readings of one clock in milliseconds, and the present time is always an argument.
-/

namespace CallAudio

structure SwitchConfig where
  order : PreferredOrder
  /-- How long a headset may take to open its audio link, in milliseconds. -/
  linkTimeout : Nat
  /-- Whether the platform's audio settings are changed during a call. -/
  managesAudio : Bool
  logging : Bool

def usualLinkTimeout : Nat := 5000

inductive Phase
  | stopped
  | started
  | activated
  deriving DecidableEq

def Phase.name : Phase → String
  | stopped => "stopped"
  | started => "started"
  | activated => "activated"

def version : String := "0.1.0"

structure Switch (σ : Type) where
  phase : Phase
  /-- Counts starts and stops, so that callbacks of an earlier session are known. -/
  session : Nat
  tracker : Tracker
  wired : WiredTracker
  route : Route
  selector : Selector
  listeners : Listeners
  host : Host σ

namespace Switch

variable {σ : Type}

def write (switch : Switch σ) (line : LogLine) : Switch σ :=
  { switch with host := switch.host.write line }

def create (config : SwitchConfig) (platform : σ) : Switch σ where
  phase := .stopped
  session := 0
  tracker := .idle config.linkTimeout
  wired := .idle
  route := .idle config.managesAudio
  selector := .empty config.order
  listeners := .none
  host := (Host.ofPlatform platform config.logging).writeAll
    [.debug "Creating audio switch" [("order", config.order.text),
      ("sco_timeout_ms", toString config.linkTimeout)], Selector.creationLine config.order]

def view (switch : Switch σ) : List Device × Option Device :=
  (switch.selector.available, switch.selector.selected)

def notifyDevices (switch : Switch σ) : Switch σ :=
  { switch with
    host := switch.listeners.devicesChanged switch.selector.available switch.selector.selected
      switch.host }

/-- Tells the device listener unless there is nothing to see that differs from `before`. -/
def announce (switch : Switch σ) (before : List Device × Option Device) : Switch σ :=
  if switch.view = before then switch else switch.notifyDevices

def notifyHeadset (switch : Switch σ) (event : HeadsetEvent) : Switch σ :=
  { switch with host := switch.listeners.headsetEvent event switch.host }

def unpin (switch : Switch σ) (device : Device) : Switch σ :=
  { switch with selector := switch.selector.unpin device }

/-- Whether automatic selection passes over `device`: it was rejected just now, or its link
failed. -/
def excludes (switch : Switch σ) (rejected : List Device) (device : Device) : Bool :=
  device ∈ rejected ||
    (switch.tracker.listening && device.address?.any (· ∈ switch.tracker.failed))

variable [Platform σ]

/-- The devices that are there now: headsets, the jack, the earpiece if there is one, and the
speaker, which is always there. -/
def candidates (switch : Switch σ) : List Device :=
  switch.tracker.visible.map .bluetoothHeadset ++ switch.wired.device?.toList ++
    (if Platform.hasEarpiece switch.host.platform then [.earpiece] else []) ++ [.speakerphone]

def recompute (switch : Switch σ) (rejected : List Device) : Switch σ :=
  let excluded := switch.excludes rejected
  { switch with
    selector := switch.selector.recompute switch.candidates excluded
    host := switch.host.writeAll (switch.selector.remarks switch.candidates excluded) }

def routeOnce (switch : Switch σ) (now : Nat) : Except RoutingError Unit × Switch σ :=
  let outcome := switch.route.routeTo switch.selector.selected switch.tracker.listening? now
    switch.host
  (outcome.result, { switch with
    route := outcome.route
    tracker := outcome.tracker.getD switch.tracker
    host := outcome.host })

def unroutedLine (device : Device) (error : RoutingError) : LogLine :=
  .warn "Could not route audio" [("device", device.text), ("error", error.message)]

def fallBack (switch : Switch σ) (device : Device) (rejected : List Device) : Switch σ :=
  ((switch.unpin device).notifyHeadset ⟨.activationError, device⟩).recompute rejected

/-- Routes audio to the selected device and, when that fails, to the best one not rejected yet.
Only headsets fail, and none is tried twice: `tries` bounds the attempts. -/
def routeWithin (tries : Nat) (rejected : List Device) (now : Nat) (switch : Switch σ) :
    Switch σ :=
  match tries with
  | 0 => switch
  | tries + 1 =>
    match switch.routeOnce now, switch.selector.selected with
    | (.error error, next), some device =>
      let next := next.write (unroutedLine device error)
      if device ∈ rejected then next
      else
        let rejected := rejected ++ [device]
        (next.fallBack device rejected).routeWithin tries rejected now
    | (_, next), _ => next

/-- Routes audio to the selected device, falling back through the preferred order. There is one
attempt for each headset and a last one for a device that cannot fail. -/
def applyRoute (switch : Switch σ) (now : Nat) : Switch σ :=
  switch.routeWithin (switch.tracker.headsets.length + 1) [] now

/-- Selects anew, routes, and tells the device listener if the outcome differs from `before`. -/
def refreshSince (switch : Switch σ) (before : List Device × Option Device) (now : Nat) :
    Switch σ := ((switch.recompute []).applyRoute now).announce before

def refresh (switch : Switch σ) (now : Nat) : Switch σ := switch.refreshSince switch.view now

def deactivateRoute (switch : Switch σ) : Switch σ :=
  let (route, tracker, host) := switch.route.deactivate switch.tracker.listening? switch.host
  { switch with route, tracker := tracker.getD switch.tracker, host }

end Switch

end CallAudio
