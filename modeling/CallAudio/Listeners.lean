import CallAudio.Host

/-! # Listeners of the application

There is one place for a listener to device changes and one for a listener to headset events.
A notice to an empty place is dropped.
-/

namespace CallAudio

structure Listeners where
  device : Option Nat
  headset : Option Nat
  deriving DecidableEq

namespace Listeners

def none : Listeners := ⟨.none, .none⟩

variable {σ : Type}

def devicesChanged (listeners : Listeners) (available : List Device) (selected : Option Device)
    (host : Host σ) : Host σ :=
  match listeners.device with
  | some listener =>
    (host.write (.debug "Notifying audio device change listener"
      [("devices", toString available.length),
        ("selected", quotedOption (selected.map Device.name))])).notify
      (.devices listener available selected)
  | .none => host.write (.debug "No audio device change listener registered" [])

def headsetEvent (listeners : Listeners) (event : HeadsetEvent) (host : Host σ) : Host σ :=
  match listeners.headset with
  | some listener =>
    (host.write (.debug "Notifying Bluetooth headset listener" [("event", event.text)])).notify
      (.headset listener event)
  | .none => host

end Listeners

end CallAudio
