import CallAudio.Host

/-! # A simulated handset

A platform that lives in memory. Connecting and plugging in change its state and are reported
to whoever listens.
-/

namespace CallAudio

structure Handset where
  hasEarpiece : Bool
  adapterAvailable : Bool
  bluetoothPermitted : Bool
  /-- Whether requests for an audio link are confirmed at once. -/
  confirmsLinks : Bool
  refusesLinks : Bool
  grantsFocus : Bool
  focusHeld : Bool
  /-- Connected headsets in the order they connected. -/
  connected : List Headset
  plugged : Option String
  audio : AudioState
  listenRefusal : Option String
  registerRefusal : Option String
  deriving DecidableEq

namespace Handset

def fresh : Handset where
  hasEarpiece := true
  adapterAvailable := true
  bluetoothPermitted := true
  confirmsLinks := true
  refusesLinks := false
  grantsFocus := true
  focusHeld := false
  connected := []
  plugged := none
  audio := .idle
  listenRefusal := none
  registerRefusal := none

def linkRefusal : String := "Simulated SCO failure"

def linkAnswer (handset : Handset) : LinkAnswer :=
  if handset.refusesLinks then .refused linkRefusal
  else if handset.confirmsLinks then .confirmed
  else .pending

/-- The state after a command. Receivers and links leave no state in the handset itself. -/
def carryOut (command : Command) (handset : Handset) : Handset :=
  match command with
  | .requestFocus => { handset with focusHeld := handset.grantsFocus || handset.focusHeld }
  | .abandonFocus => { handset with focusHeld := false }
  | .setSpeakerphone on => { handset with audio := { handset.audio with speakerphoneOn := on } }
  | .setMicrophoneMute muted =>
    { handset with audio := { handset.audio with microphoneMuted := muted } }
  | .setMode mode => { handset with audio := { handset.audio with mode := mode } }
  | _ => handset

instance : Platform Handset where
  adapterAvailable := adapterAvailable
  bluetoothPermitted := bluetoothPermitted
  listenRefusal? := listenRefusal
  connectedHeadsets := connected
  linkAnswer handset _ := handset.linkAnswer
  registerRefusal? := registerRefusal
  pluggedHeadset? := plugged
  hasEarpiece := hasEarpiece
  grantsFocus := grantsFocus
  audioState := audio
  carryOut := carryOut

end Handset

inductive HandsetAction
  | connect (headset : Headset)
  | disconnect (address : String)
  /-- A Bluetooth report about nothing that changed. -/
  | reportBluetooth (event : BluetoothEvent)
  | plug (name : String)
  | unplug
  /-- A plug report about nothing that changed. -/
  | reportWired (event : WiredEvent)
  | changeFocus (change : FocusChange)
  | setAudio (audio : AudioState)
  | setEarpiece (on : Bool)
  | setAdapter (on : Bool)
  | setPermission (on : Bool)
  | setConfirmsLinks (on : Bool)
  | setRefusesLinks (on : Bool)
  | setGrantsFocus (on : Bool)
  | setListenRefusal (reason : Option String)
  | setRegisterRefusal (reason : Option String)

namespace Host

def adjust (host : Host Handset) (change : Handset → Handset) : Host Handset :=
  { host with platform := change host.platform }

/-- Connects a headset. One with the same address is replaced and counts as the latest. -/
def connect (host : Host Handset) (headset : Headset) : Host Handset :=
  (host.adjust fun handset => { handset with
    connected := handset.connected.filter (·.address ≠ headset.address) ++ [headset] })
    |>.reportBluetooth (.connected headset)

def disconnect (host : Host Handset) (address : String) : Host Handset :=
  (host.adjust fun handset => { handset with
    connected := handset.connected.filter (·.address ≠ address) })
    |>.reportBluetooth (.disconnected address)

def plug (host : Host Handset) (name : String) : Host Handset :=
  (host.adjust fun handset => { handset with plugged := some name }).reportWired (.plugged name)

def unplug (host : Host Handset) : Host Handset :=
  (host.adjust fun handset => { handset with plugged := none }).reportWired .unplugged

def react (host : Host Handset) : HandsetAction → Host Handset
  | .connect headset => host.connect headset
  | .disconnect address => host.disconnect address
  | .reportBluetooth event => host.reportBluetooth event
  | .plug name => host.plug name
  | .unplug => host.unplug
  | .reportWired event => host.reportWired event
  | .changeFocus change => host.changeFocus change
  | .setAudio audio => host.adjust ({ · with audio })
  | .setEarpiece on => host.adjust ({ · with hasEarpiece := on })
  | .setAdapter on => host.adjust ({ · with adapterAvailable := on })
  | .setPermission on => host.adjust ({ · with bluetoothPermitted := on })
  | .setConfirmsLinks on => host.adjust ({ · with confirmsLinks := on })
  | .setRefusesLinks on => host.adjust ({ · with refusesLinks := on })
  | .setGrantsFocus on => host.adjust ({ · with grantsFocus := on })
  | .setListenRefusal reason => host.adjust ({ · with listenRefusal := reason })
  | .setRegisterRefusal reason => host.adjust ({ · with registerRefusal := reason })

end Host

end CallAudio
