import CallAudio.Kind

/-! # Audio devices

A device is known by its kind and, for headsets, by its name; a Bluetooth headset also has a
hardware address, which identifies it whatever its name.
-/

namespace CallAudio

structure Headset where
  name : String
  address : String
  deriving DecidableEq

inductive Device
  | earpiece
  | speakerphone
  | wiredHeadset (name : String)
  | bluetoothHeadset (headset : Headset)
  deriving DecidableEq

namespace Device

def kind : Device → Kind
  | earpiece => .earpiece
  | speakerphone => .speakerphone
  | wiredHeadset _ => .wiredHeadset
  | bluetoothHeadset _ => .bluetoothHeadset

def name : Device → String
  | earpiece => "Earpiece"
  | speakerphone => "Speakerphone"
  | wiredHeadset name => name
  | bluetoothHeadset headset => headset.name

/-- The hardware address, which only Bluetooth headsets have. -/
def address? : Device → Option String
  | bluetoothHeadset headset => some headset.address
  | _ => none

def isBluetooth : Device → Bool
  | bluetoothHeadset _ => true
  | _ => false

def text : Device → String
  | bluetoothHeadset headset => s!"{headset.name} (BluetoothHeadset) [{headset.address}]"
  | wiredHeadset name => s!"{name} (WiredHeadset)"
  | earpiece => "Earpiece"
  | speakerphone => "Speakerphone"

theorem isBluetooth_iff {device : Device} :
    device.isBluetooth = true ↔ ∃ headset, device = bluetoothHeadset headset := by
  cases device <;> simp [isBluetooth]

end Device

end CallAudio
