import CallAudio.Device
import CallAudio.Text.Quoted

/-! # Events

What the platform reports through its callbacks, and what the application is told about
headsets in turn.
-/

namespace CallAudio

inductive BluetoothEvent
  | connected (headset : Headset)
  | disconnected (address : String)
  | audioConnected (address : String)
  | audioDisconnected (address : String)
  /-- The platform gave up opening the audio link. -/
  | audioFailed (address : String)
  deriving DecidableEq

inductive WiredEvent
  | plugged (name : String)
  | unplugged
  deriving DecidableEq

inductive Report
  | bluetooth (event : BluetoothEvent)
  | wired (event : WiredEvent)
  deriving DecidableEq

/-- A report together with the session that its receiver was registered in. -/
structure Callback where
  session : Nat
  report : Report
  deriving DecidableEq

def recordText (name : String) (fields : List (String × String)) : String :=
  name ++ " \x7b " ++ ", ".intercalate (fields.map fun field => field.1 ++ ": " ++ field.2) ++
    " \x7d"

def BluetoothEvent.text : BluetoothEvent → String
  | connected headset =>
    recordText "Connected" [("address", quoted headset.address), ("name", quoted headset.name)]
  | disconnected address => recordText "Disconnected" [("address", quoted address)]
  | audioConnected address => recordText "AudioConnected" [("address", quoted address)]
  | audioDisconnected address => recordText "AudioDisconnected" [("address", quoted address)]
  | audioFailed address => recordText "AudioActivationFailed" [("address", quoted address)]

def WiredEvent.text : WiredEvent → String
  | plugged name => recordText "Plugged" [("name", quoted name)]
  | unplugged => "Unplugged"

def Report.text : Report → String
  | bluetooth event => "Bluetooth(" ++ event.text ++ ")"
  | wired event => "Wired(" ++ event.text ++ ")"

inductive HeadsetChange
  | connected
  | disconnected
  | audioConnected
  | audioDisconnected
  /-- The audio link could not be opened; another device is used instead. -/
  | activationError
  deriving DecidableEq

structure HeadsetEvent where
  change : HeadsetChange
  device : Device
  deriving DecidableEq

def HeadsetEvent.text (event : HeadsetEvent) : String :=
  event.device.name ++
    match event.change with
    | .connected => " connected"
    | .disconnected => " disconnected"
    | .audioConnected => " audio connected"
    | .audioDisconnected => " audio disconnected"
    | .activationError => " audio activation failed"

inductive FocusChange
  | gain
  | loss
  | lossTransient
  | lossTransientCanDuck
  deriving DecidableEq

/-- Something that a listener of the application is told; listeners are known by number. -/
inductive Notice
  /-- The available devices, in preferred order, and the selected one. -/
  | devices (listener : Nat) (available : List Device) (selected : Option Device)
  | headset (listener : Nat) (event : HeadsetEvent)
  | focus (listener : Nat) (change : FocusChange)
  deriving DecidableEq

end CallAudio
