import CallAudio.Command

/-! # The platform

What the switch needs to know about the handset it runs on. A platform answers questions from
its present state and changes its state by carrying out commands; nothing else is assumed, so
any pattern of refusals is a platform.
-/

namespace CallAudio

inductive LinkAnswer
  | refused (reason : String)
  /-- The request is under way; the outcome is reported later. -/
  | pending
  /-- The link is open, and the report of it is already under way. -/
  | confirmed
  deriving DecidableEq

class Platform (σ : Type) where
  /-- There is a Bluetooth adapter, and it is enabled. -/
  adapterAvailable : σ → Bool
  /-- Talking to Bluetooth headsets is permitted. -/
  bluetoothPermitted : σ → Bool
  /-- Why a receiver for Bluetooth events would be refused now, if it would. -/
  listenRefusal? : σ → Option String
  /-- The headsets that are connected now, in the order they connected. -/
  connectedHeadsets : σ → List Headset
  linkAnswer : σ → String → LinkAnswer
  /-- Why a receiver for plug events would be refused now, if it would. -/
  registerRefusal? : σ → Option String
  pluggedHeadset? : σ → Option String
  hasEarpiece : σ → Bool
  /-- A request for audio focus would be granted now. -/
  grantsFocus : σ → Bool
  audioState : σ → AudioState
  carryOut : Command → σ → σ

end CallAudio
