import CallAudio.Tracker

/-! # The audio route

The route holds audio focus and the device that is heard while a call is active. Without focus
nothing is sent to the platform. Activation keeps the audio settings found then, and the end of
the activation puts them back.
-/

namespace CallAudio

structure Route where
  /-- Whether the platform's audio settings are changed during a call. -/
  managesAudio : Bool
  /-- The listener that goes with the next request for focus. -/
  focusListener : Option Nat
  saved : Option AudioState
  activated : Bool
  focusHeld : Bool
  routed : Option Device
  deriving DecidableEq

namespace Route

def idle (managesAudio : Bool) : Route := ⟨managesAudio, none, none, false, false, none⟩

def isRouting (route : Route) : Bool := route.activated && route.focusHeld

/-- Forgets that `device` is routed, so that routing it again opens its link anew. -/
def release (route : Route) (device : Device) : Route :=
  if route.routed = some device then { route with routed := none } else route

variable {σ : Type} [Platform σ]

def prepare (route : Route) (host : Host σ) : Route × Host σ :=
  if route.activated then (route, host)
  else if !route.managesAudio then ({ route with activated := true }, host)
  else
    let audio := Platform.audioState host.platform
    ({ route with activated := true, saved := some audio },
      (((host.write (.debug "Caching audio state" [("state", audio.text)])).issue
        (.setMode .inCommunication)).issue (.setMicrophoneMute false)).issue
          (.setSpeakerphone false))

def takeFocus (route : Route) (host : Host σ) : Except RoutingError Unit × Route × Host σ :=
  if route.focusHeld then (.ok (), route, host)
  else
    match host.requestFocus route.focusListener with
    | (true, host) =>
      (.ok (), { route with focusHeld := true }, host.write (.debug "Audio focus granted" []))
    | (false, host) =>
      (.error .focusDeclined, route, host.write (.warn "Audio focus request was declined" []))

/-- Prepares the platform for a call and takes focus. Only the first activation keeps the audio
settings; a later one asks again for focus that was declined. -/
def activate (route : Route) (host : Host σ) : Except RoutingError Unit × Route × Host σ :=
  let (route, host) := route.prepare host
  route.takeFocus host

def closeAny (tracker : Option Tracker) (host : Host σ) : Option Tracker × Host σ :=
  match tracker with
  | some tracker =>
    let (tracker, host) := tracker.closeLink host
    (some tracker, host)
  | none => (none, host)

/-- Silences `old`, which gives way to `next`. Between two headsets this is left to the tracker,
which closes one link when it opens the other. -/
def disable (old : Device) (next : Option Device) (tracker : Option Tracker) (host : Host σ) :
    Option Tracker × Host σ :=
  let host := host.write (.debug "Disabling audio device" [("device", old.text)])
  match old with
  | .bluetoothHeadset _ =>
    if next.any (·.isBluetooth) then (tracker, host) else closeAny tracker host
  | .speakerphone => (tracker, host.issue (.setSpeakerphone false))
  | _ => (tracker, host)

def enable (device : Device) (tracker : Option Tracker) (now : Nat) (host : Host σ) :
    Except RoutingError Unit × Option Tracker × Host σ :=
  let host := host.write (.info "Routing audio" [("device", device.text)])
  match device with
  | .bluetoothHeadset headset =>
    match tracker with
    | some tracker =>
      let (result, tracker, host) := tracker.openLink headset.address now host
      (result, some tracker, host)
    | none => (.error (.linkFailed headset.address), none, host)
  | .speakerphone => (.ok (), tracker, host.issue (.setSpeakerphone true))
  | _ => (.ok (), tracker, host)

structure Outcome (σ : Type) where
  result : Except RoutingError Unit
  route : Route
  tracker : Option Tracker
  host : Host σ

def vacate (route : Route) (next : Option Device) (tracker : Option Tracker) (host : Host σ) :
    Option Tracker × Host σ :=
  match route.routed with
  | some old => disable old next tracker host
  | none => (tracker, host)

/-- Moves the audio from the routed device to `device`. Nothing happens unless devices are being
routed, or if `device` is routed already; if it cannot be heard, nothing is routed. -/
def routeTo (route : Route) (device : Option Device) (tracker : Option Tracker) (now : Nat)
    (host : Host σ) : Outcome σ :=
  if !route.isRouting || route.routed = device then ⟨.ok (), route, tracker, host⟩
  else
    let vacated := route.vacate device tracker host
    match device with
    | none => ⟨.ok (), { route with routed := none }, vacated.1, vacated.2⟩
    | some device =>
      let enabled := enable device vacated.1 now vacated.2
      match enabled.1 with
      | .ok () => ⟨.ok (), { route with routed := some device }, enabled.2.1, enabled.2.2⟩
      | .error error => ⟨.error error, { route with routed := none }, enabled.2.1, enabled.2.2⟩

def silence (route : Route) (tracker : Option Tracker) (host : Host σ) :
    Option Tracker × Host σ :=
  match route.routed with
  | some (.bluetoothHeadset _) => closeAny tracker host
  | some .speakerphone => (tracker, host.issue (.setSpeakerphone false))
  | _ => (tracker, host)

def restore (route : Route) (host : Host σ) : Host σ :=
  match route.saved with
  | some audio =>
    (((host.write (.debug "Restoring audio state" [("state", audio.text)])).issue
      (.setMode audio.mode)).issue (.setSpeakerphone audio.speakerphoneOn)).issue
        (.setMicrophoneMute audio.microphoneMuted)
  | none => host

def deactivate (route : Route) (tracker : Option Tracker) (host : Host σ) :
    Route × Option Tracker × Host σ :=
  if !route.activated then (route, tracker, host)
  else
    let (tracker, host) := route.silence tracker host
    let host := if route.focusHeld then host.abandonFocus else host
    ({ route with activated := false, focusHeld := false, saved := none, routed := none },
      tracker, route.restore host)

end Route

end CallAudio
