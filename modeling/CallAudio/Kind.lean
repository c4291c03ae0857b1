/-! # Kinds of audio device

The four kinds of endpoint that a handset can play a call on, and their two names: the one
that messages show and the one that documents use.
-/

namespace CallAudio

inductive Kind
  | bluetoothHeadset
  | wiredHeadset
  | earpiece
  | speakerphone
  deriving DecidableEq

namespace Kind

/-- Every kind, the external ones first and the speaker as the last resort. -/
def all : List Kind := [bluetoothHeadset, wiredHeadset, earpiece, speakerphone]

theorem mem_all (kind : Kind) : kind ∈ all := by cases kind <;> decide

theorem nodup_all : all.Nodup := by decide

def name : Kind → String
  | bluetoothHeadset => "BluetoothHeadset"
  | wiredHeadset => "WiredHeadset"
  | earpiece => "Earpiece"
  | speakerphone => "Speakerphone"

def key : Kind → String
  | bluetoothHeadset => "bluetooth_headset"
  | wiredHeadset => "wired_headset"
  | earpiece => "earpiece"
  | speakerphone => "speakerphone"

/-- The kind with the document name `key`, which has to match letter for letter. -/
def ofKey? (key : String) : Option Kind := all.find? (·.key = key)

end Kind

end CallAudio
