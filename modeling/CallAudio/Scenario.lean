import CallAudio.Handset
import CallAudio.Scenario.Step
import CallAudio.Toml.Codec

/-! # Scenarios

A scenario is a handset to begin with and steps that happen to it and to its switch. It is written
as a TOML document with the table `platform` and the array `step`.
-/

namespace CallAudio

open Toml

structure Scenario where
  handset : Handset
  steps : List Step
  deriving DecidableEq

namespace Scenario

/-- The switches of a handset that a document can set, all of them on unless it says otherwise. -/
def handset? (value : Value) : Option Handset := do
  let field ← Value.record?
    ["has_earpiece", "bluetooth_adapter", "bluetooth_permission", "auto_connect_audio",
      "grant_focus"] value
  return { Handset.fresh with
    hasEarpiece := ← Value.readOr Value.boolean? true (field "has_earpiece")
    adapterAvailable := ← Value.readOr Value.boolean? true (field "bluetooth_adapter")
    bluetoothPermitted := ← Value.readOr Value.boolean? true (field "bluetooth_permission")
    confirmsLinks := ← Value.readOr Value.boolean? true (field "auto_connect_audio")
    grantsFocus := ← Value.readOr Value.boolean? true (field "grant_focus") }

def steps? (value : Value) : Option (List Step) := value.array?.bind (·.mapM Step.ofToml?)

def ofToml? (document : Value) : Option Scenario := do
  return {
    handset := ← Value.readOr handset? Handset.fresh (document.get? "platform")
    steps := ← Value.readOr steps? [] (document.get? "step") }

def ofText? [Codec] (text : String) : Option Scenario := (Codec.read? text).bind ofToml?

def complaint : String := "Failed to parse scenario"

end Scenario

end CallAudio
