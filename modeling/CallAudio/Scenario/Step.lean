import CallAudio.Device
import CallAudio.Toml.Value

/-! # Steps of a scenario

What a scenario can have happen, how a step is shown, and how it is read. A step is read from a
table with the key `action` and a key for each field, or from an array that lists the action and
then its fields in order.
-/

namespace CallAudio

open Toml

inductive Step
  | start
  | stop
  | activate
  | deactivate
  /-- Selects the first available device of a kind, or of a kind and with an address. -/
  | select (kind : Kind) (address : Option String)
  | clearSelection
  | connect (headset : Headset)
  | disconnect (address : String)
  | confirmLink (address : String)
  | failLink (address : String)
  | plug (name : String)
  | unplug
  | grantPermission
  | revokePermission
  | hostResumed
  | wait (time : Nat)
  deriving DecidableEq

namespace Step

def text : Step → String
  | start => "start"
  | stop => "stop"
  | activate => "activate"
  | deactivate => "deactivate"
  | select kind (some address) => "select " ++ kind.name ++ " " ++ address
  | select kind none => "select " ++ kind.name
  | clearSelection => "clear selection"
  | connect headset => "bluetooth connect " ++ headset.name ++ " (" ++ headset.address ++ ")"
  | disconnect address => "bluetooth disconnect " ++ address
  | confirmLink address => "bluetooth audio connected " ++ address
  | failLink address => "bluetooth audio failed " ++ address
  | plug name => "wired plug " ++ name
  | unplug => "wired unplug"
  | grantPermission => "grant bluetooth permission"
  | revokePermission => "revoke bluetooth permission"
  | hostResumed => "host resumed"
  | wait time => "wait " ++ toString time ++ "ms"

/-- A kind by its document name, which may also be the only key of a table, with an empty table
as its value. -/
def kind? : Value → Option Kind
  | .string key => Kind.ofKey? key
  | .table [(key, .table [])] => Kind.ofKey? key
  | _ => none

def fields (action : String) : List String :=
  match action with
  | "select" => ["kind", "address"]
  | "bluetooth_connect" => ["name", "address"]
  | "bluetooth_disconnect" => ["address"]
  | "bluetooth_audio_connected" => ["address"]
  | "bluetooth_audio_failed" => ["address"]
  | "wired_plug" => ["name"]
  | "wait" => ["ms"]
  | _ => []

/-- The step with an action and fields. The address of a selection and the name of a wired headset
may be missing. -/
def ofFields? (action : String) (field : String → Option Value) : Option Step :=
  let address := (field "address").bind Value.string?
  match action with
  | "start" => some start
  | "stop" => some stop
  | "activate" => some activate
  | "deactivate" => some deactivate
  | "select" => do
    let kind ← (field "kind").bind kind?
    return select kind (← Value.readOr (some <$> ·.string?) none (field "address"))
  | "clear_selection" => some clearSelection
  | "bluetooth_connect" => do
    return connect ⟨← (field "name").bind Value.string?, ← address⟩
  | "bluetooth_disconnect" => address.map disconnect
  | "bluetooth_audio_connected" => address.map confirmLink
  | "bluetooth_audio_failed" => address.map failLink
  | "wired_plug" => (Value.readOr Value.string? "" (field "name")).map plug
  | "wired_unplug" => some unplug
  | "grant_permission" => some grantPermission
  | "revoke_permission" => some revokePermission
  | "host_resumed" => some hostResumed
  | "wait" => ((field "ms").bind Value.natural?).map wait
  | _ => none

/-- Reads a step. Other keys of a table are ignored, but an array may not be longer than its
action has fields. -/
def ofToml? : Value → Option Step
  | .table entries => do
    let action ← (entries.lookup "action").bind Value.string?
    ofFields? action (entries.lookup ·)
  | .array (.string action :: items) =>
    if (fields action).length < items.length then none
    else (Value.record? (fields action) (.array items)).bind (ofFields? action)
  | _ => none

end Step

end CallAudio
