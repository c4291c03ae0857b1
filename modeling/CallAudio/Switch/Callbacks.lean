import CallAudio.Switch

/-! # Applying callbacks

Callbacks of the platform wait in a queue and are applied one at a time, in the order they
arrived. A callback of an earlier session is dropped.
-/

namespace CallAudio.Switch

variable {σ : Type} [Platform σ]

/-- A headset whose link could not be opened loses its pin. -/
def yieldFailed (switch : Switch σ) (event : HeadsetEvent) : Switch σ :=
  if event.change = .activationError then
    (switch.write (.warn "Falling back from Bluetooth headset" [("device", event.device.text)]))
      |>.unpin event.device
  else switch

/-- A routed headset whose link dropped is routed again by the next refresh. -/
def reopenDropped (switch : Switch σ) (event : HeadsetEvent) : Switch σ :=
  if event.change = .audioDisconnected ∧ switch.tracker.listening = true ∧
      switch.tracker.link = .idle ∧ switch.route.routed = some event.device then
    { switch with route := switch.route.release event.device }
      |>.write (.info "Bluetooth audio dropped, reconnecting" [("device", event.device.text)])
  else switch

/-- Feeds a Bluetooth event to the tracker. The flag says whether to select anew. -/
def applyBluetooth (switch : Switch σ) (event : BluetoothEvent) : Bool × Switch σ :=
  if !switch.tracker.listening then (false, switch)
  else
    match switch.tracker.report? event with
    | none => (false, switch)
    | some report =>
      let tracked := { switch with
        tracker := switch.tracker.apply event
        host := switch.host.writeAll (switch.tracker.remarks event) }
      (true, ((tracked.notifyHeadset report).yieldFailed report).reopenDropped report)

def applyWired (switch : Switch σ) (event : WiredEvent) : Bool × Switch σ :=
  (switch.wired.changes event, { switch with
    wired := switch.wired.apply event
    host := switch.host.writeAll (switch.wired.remarks event) })

def applyCallback (switch : Switch σ) (callback : Callback) : Bool × Switch σ :=
  if callback.session ≠ switch.session ∨ switch.phase = .stopped then
    (false, switch.write
      (.debug "Dropping event from a stopped session" [("event", callback.report.text)]))
  else
    match callback.report with
    | .bluetooth event => switch.applyBluetooth event
    | .wired event => switch.applyWired event

def handle (switch : Switch σ) (callback : Callback) (now : Nat) : Switch σ :=
  let (changed, switch) := switch.applyCallback callback
  if changed then switch.refresh now else switch

def next? (switch : Switch σ) (now : Nat) : Option (Switch σ) :=
  match switch.host.queue with
  | [] => none
  | callback :: rest =>
    some ({ switch with host := { switch.host with queue := rest } }.handle callback now)

def drainWithin (count : Nat) (switch : Switch σ) (now : Nat) : Nat × Switch σ :=
  match count with
  | 0 => (0, switch)
  | count + 1 =>
    match switch.next? now with
    | none => (0, switch)
    | some next =>
      let (applied, last) := next.drainWithin count now
      (applied + 1, last)

/-- Applies callbacks until none waits, and counts them. A callback can call forth one more: the
report of a link that the platform confirms at once. Such a report calls forth none while its headset
is still selected, so three times as many as wait now are enough. -/
def drain (switch : Switch σ) (now : Nat) : Nat × Switch σ :=
  switch.drainWithin (3 * switch.host.queue.length) now

def poll (switch : Switch σ) (now : Nat) : Switch σ :=
  if !switch.tracker.listening then switch
  else
    match switch.tracker.checkTimeout now switch.host with
    | (some event, tracker, host) =>
      (({ switch with tracker, host }.notifyHeadset event).yieldFailed event).refresh now
    | (none, tracker, host) => { switch with tracker, host }

def pump (switch : Switch σ) (now : Nat) : Nat × Switch σ :=
  let (applied, switch) := switch.drain now
  (applied, switch.poll now)

def pumped (switch : Switch σ) (now : Nat) : Switch σ := (switch.pump now).2

end CallAudio.Switch
