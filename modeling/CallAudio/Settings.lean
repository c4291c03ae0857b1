import CallAudio.Kind.Spelling
import CallAudio.Switch
import CallAudio.Toml.Codec

/-! # Settings

What a user can choose, as a TOML document with the sections `general` and `routing`. All of it
has a default. The kinds in the preferred order are kept as they are written, so that a document
can be read before the kinds are checked.
-/

namespace CallAudio

open Toml

structure Settings where
  logLevel : String
  logging : Bool
  /-- Spellings of kinds, the most preferred first. -/
  preferred : List String
  /-- How long a headset may take to open its audio link, in milliseconds. -/
  linkTimeout : Nat
  managesAudio : Bool
  deriving DecidableEq

namespace Settings

def usual : Settings where
  logLevel := "info"
  logging := false
  preferred := []
  linkTimeout := usualLinkTimeout
  managesAudio := true

def section? (document : Value) (name : String) (fields : List String) :
    Option (String → Option Value) :=
  Value.readOr (Value.record? fields) (fun _ => none) (document.get? name)

/-- Reads settings. What is there has to have the right type; unknown keys are ignored. -/
def ofToml? (document : Value) : Option Settings := do
  let general ← section? document "general" ["log_level", "logging_enabled"]
  let routing ← section? document "routing"
    ["preferred_devices", "sco_timeout_ms", "manage_audio_mode"]
  return {
    logLevel := ← Value.readOr Value.string? usual.logLevel (general "log_level")
    logging := ← Value.readOr Value.boolean? usual.logging (general "logging_enabled")
    preferred := ← Value.readOr Value.strings? usual.preferred (routing "preferred_devices")
    linkTimeout := ← Value.readOr Value.natural? usual.linkTimeout (routing "sco_timeout_ms")
    managesAudio := ← Value.readOr Value.boolean? usual.managesAudio
      (routing "manage_audio_mode") }

def sections (settings : Settings) : List Section :=
  [⟨"general", [("log_level", .text settings.logLevel),
    ("logging_enabled", .flag settings.logging)]⟩,
    ⟨"routing", [("preferred_devices", .texts settings.preferred),
      ("sco_timeout_ms", .number settings.linkTimeout),
      ("manage_audio_mode", .flag settings.managesAudio)]⟩]

def ofText? [Codec] (text : String) : Option Settings := (Codec.read? text).bind ofToml?

/-- The document that says these settings. There is none if the time is too long for an integer. -/
def print? [Codec] (settings : Settings) : Option String := Codec.write? settings.sections

/-- The chosen kinds. The first spelling that names none is the error. -/
def kinds (settings : Settings) : Except RoutingError (List Kind) :=
  settings.preferred.mapM Kind.ofText

def order (settings : Settings) : Except RoutingError PreferredOrder := do
  PreferredOrder.ofList (← settings.kinds)

def switchConfig (settings : Settings) : Except RoutingError SwitchConfig := do
  return {
    order := ← settings.order
    linkTimeout := settings.linkTimeout
    managesAudio := settings.managesAudio
    logging := settings.logging }

def level? (settings : Settings) : Option LogLevel := LogLevel.ofText? settings.logLevel

def levelComplaint (settings : Settings) : String :=
  "Invalid log level '" ++ settings.logLevel ++ "'"

end Settings

end CallAudio
