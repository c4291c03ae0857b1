import CallAudio.PreferredOrder
import CallAudio.Log
import CallAudio.Text.Quoted

/-! # Selecting a device

The selector holds the available devices and the selected one. The selection is either the best
device that is not excluded, or pinned to a device that was chosen by hand. A pin belongs to the
exact device; when a pinned Bluetooth headset goes away, the pin passes to the first Bluetooth
headset left.
-/

namespace CallAudio

structure Selector where
  order : PreferredOrder
  available : List Device
  selected : Option Device
  pinned : Bool

namespace Selector

def empty (order : PreferredOrder) : Selector := ⟨order, [], none, false⟩

def load (selector : Selector) (candidates : List Device) : Selector :=
  { selector with available := selector.order.arrange candidates }

def successor? (selector : Selector) (excluded : Device → Bool) : Option Device :=
  selector.available.find? fun device => device.isBluetooth && !excluded device

/-- Keeps a pin whose device is available, passes it on or drops it. -/
def revalidate (selector : Selector) (excluded : Device → Bool) : Selector :=
  if !selector.pinned then selector
  else
    match selector.selected with
    | none => { selector with pinned := false }
    | some device =>
      if device ∈ selector.available then selector
      else
        match if device.isBluetooth then selector.successor? excluded else none with
        | some heir => { selector with selected := some heir }
        | none => { selector with pinned := false }

def choice (selector : Selector) (excluded : Device → Bool) : Option Device :=
  if selector.pinned then selector.selected else bestDevice? excluded selector.available

def recompute (selector : Selector) (candidates : List Device) (excluded : Device → Bool) :
    Selector :=
  let selector := (selector.load candidates).revalidate excluded
  { selector with selected := selector.choice excluded }

/-- Whether a recomputation selects another device than the one left by the check of the pin. -/
def reselects (selector : Selector) (candidates : List Device) (excluded : Device → Bool) :
    Bool :=
  let selector := (selector.load candidates).revalidate excluded
  selector.choice excluded ≠ selector.selected

def searchLine (best : Option Device) : LogLine :=
  match best with
  | some device => .debug "Best available device" [("device", device.text)]
  | none => .debug "No audio device available" []

def creationLine (order : PreferredOrder) : LogLine :=
  .debug "Creating device priority manager" [("order", order.text)]

def revalidateRemarks (selector : Selector) (excluded : Device → Bool) : List LogLine :=
  match selector.selected with
  | some device =>
    if !selector.pinned || device ∈ selector.available then []
    else
      match if device.isBluetooth then selector.successor? excluded else none with
      | some heir =>
        [.debug "Moving pin to remaining Bluetooth headset" [("device", heir.text)]]
      | none => [.debug "Pinned device is gone, clearing pin" [("device", device.text)]]
  | none => []

def remarks (selector : Selector) (candidates : List Device) (excluded : Device → Bool) :
    List LogLine :=
  let loaded := selector.load candidates
  let checked := loaded.revalidate excluded
  let next := checked.choice excluded
  loaded.revalidateRemarks excluded ++
    (if checked.pinned then [] else [searchLine next]) ++
    if selector.reselects candidates excluded then
      [.info "Selected audio device changed"
        [("from", quotedOption (checked.selected.map Device.name)),
          ("to", quotedOption (next.map Device.name)), ("pinned", flagText checked.pinned)]]
    else []

def pin (selector : Selector) (device : Device) : Selector :=
  if device ∈ selector.available then { selector with selected := some device, pinned := true }
  else selector

def clearPin (selector : Selector) : Selector := { selector with pinned := false }

def unpin (selector : Selector) (device : Device) : Selector :=
  if selector.selected = some device then selector.clearPin else selector

def clear (selector : Selector) : Selector := empty selector.order

end Selector

end CallAudio
