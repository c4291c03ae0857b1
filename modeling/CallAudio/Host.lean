import CallAudio.Platform

/-! # The host of a switch

A host is the platform together with everything that passes between it and the switch: the
registered receivers, the callbacks that wait to be applied, the commands issued, the notices
given to the application and the log. The four records only ever grow, each in its own order.
-/

namespace CallAudio

structure Host (σ : Type) where
  platform : σ
  /-- The session of the receiver for Bluetooth events, while there is one. -/
  bluetoothReceiver : Option Nat
  /-- The session of the receiver for plug events, while there is one. -/
  wiredReceiver : Option Nat
  /-- The listener for focus changes that came with the focus now held. -/
  focusListener : Option Nat
  /-- Callbacks that arrived and were not applied yet, the oldest first. -/
  queue : List Callback
  commands : List Command
  notices : List Notice
  logging : Bool
  log : List LogLine

namespace Host

variable {σ : Type}

def ofPlatform (platform : σ) (logging : Bool) : Host σ where
  platform
  bluetoothReceiver := none
  wiredReceiver := none
  focusListener := none
  queue := []
  commands := []
  notices := []
  logging
  log := []

def write (host : Host σ) (line : LogLine) : Host σ :=
  if host.logging then { host with log := host.log ++ [line] } else host

def writeAll (host : Host σ) (lines : List LogLine) : Host σ := lines.foldl write host

def notify (host : Host σ) (notice : Notice) : Host σ :=
  { host with notices := host.notices ++ [notice] }

def deliver (host : Host σ) (callback : Callback) : Host σ :=
  { host with queue := host.queue ++ [callback] }

def reportBluetooth (host : Host σ) (event : BluetoothEvent) : Host σ :=
  match host.bluetoothReceiver with
  | some session => host.deliver ⟨session, .bluetooth event⟩
  | none => host

def reportWired (host : Host σ) (event : WiredEvent) : Host σ :=
  match host.wiredReceiver with
  | some session => host.deliver ⟨session, .wired event⟩
  | none => host

def changeFocus (host : Host σ) (change : FocusChange) : Host σ :=
  match host.focusListener with
  | some listener => host.notify (.focus listener change)
  | none => host

def clearRecords (host : Host σ) : Host σ :=
  { host with commands := [], notices := [], log := [] }

variable [Platform σ]

def issue (host : Host σ) (command : Command) : Host σ :=
  { host with
    platform := Platform.carryOut command host.platform
    commands := host.commands ++ [command] }

/-- Registers a receiver for Bluetooth events, which hears of every connected headset at once.
A refusal leaves no trace. -/
def startListening (host : Host σ) (session : Nat) : Except String (Host σ) :=
  match Platform.listenRefusal? host.platform with
  | some reason => .error reason
  | none =>
    let known := Platform.connectedHeadsets host.platform
    let host := { host.issue .startListening with bluetoothReceiver := some session }
    .ok (known.foldl (fun host headset => host.reportBluetooth (.connected headset)) host)

def stopListening (host : Host σ) : Host σ :=
  { host.issue .stopListening with bluetoothReceiver := none }

/-- Asks for an audio link to a headset. The request counts as a command even if it is refused. -/
def enableLink (host : Host σ) (address : String) : Except String Unit × Host σ :=
  let answer := Platform.linkAnswer host.platform address
  let host := host.issue (.enableLink address)
  match answer with
  | .refused reason => (.error reason, host)
  | .pending => (.ok (), host)
  | .confirmed => (.ok (), host.reportBluetooth (.audioConnected address))

def registerWired (host : Host σ) (session : Nat) : Except String (Host σ) :=
  match Platform.registerRefusal? host.platform with
  | some reason => .error reason
  | none => .ok { host.issue .registerWired with wiredReceiver := some session }

def unregisterWired (host : Host σ) : Host σ :=
  { host.issue .unregisterWired with wiredReceiver := none }

def requestFocus (host : Host σ) (listener : Option Nat) : Bool × Host σ :=
  let granted := Platform.grantsFocus host.platform
  let host := host.issue .requestFocus
  if granted then (true, { host with focusListener := listener }) else (false, host)

def abandonFocus (host : Host σ) : Host σ :=
  { host.issue .abandonFocus with focusListener := none }

end Host

end CallAudio
