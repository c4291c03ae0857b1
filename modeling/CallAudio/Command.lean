import CallAudio.Event
import CallAudio.Log

/-! # Commands and the platform's audio settings -/

namespace CallAudio

inductive AudioMode
  | normal
  | ringtone
  | inCall
  | inCommunication
  deriving DecidableEq

def AudioMode.name : AudioMode → String
  | normal => "Normal"
  | ringtone => "Ringtone"
  | inCall => "InCall"
  | inCommunication => "InCommunication"

/-- The audio settings that change while a call is active. -/
structure AudioState where
  mode : AudioMode
  speakerphoneOn : Bool
  microphoneMuted : Bool
  deriving DecidableEq

namespace AudioState

def idle : AudioState := ⟨.normal, false, false⟩

def text (audio : AudioState) : String :=
  recordText "AudioState" [("mode", audio.mode.name),
    ("speakerphone_on", flagText audio.speakerphoneOn),
    ("microphone_muted", flagText audio.microphoneMuted)]

end AudioState

inductive Command
  | startListening
  | stopListening
  | enableLink (address : String)
  | disableLink
  | registerWired
  | unregisterWired
  | requestFocus
  | abandonFocus
  | setSpeakerphone (on : Bool)
  | setMicrophoneMute (muted : Bool)
  | setMode (mode : AudioMode)
  deriving DecidableEq

def Command.text : Command → String
  | startListening => "bluetooth: start listening"
  | stopListening => "bluetooth: stop listening"
  | enableLink address => "bluetooth: enable SCO " ++ address
  | disableLink => "bluetooth: disable SCO"
  | registerWired => "wired: register"
  | unregisterWired => "wired: unregister"
  | requestFocus => "audio: request focus"
  | abandonFocus => "audio: abandon focus"
  | setSpeakerphone on => "audio: speakerphone " ++ flagText on
  | setMicrophoneMute muted => "audio: microphone mute " ++ flagText muted
  | setMode mode => "audio: mode " ++ mode.name

end CallAudio
