import CallAudio.Proofs.Selection

/-! # Routing the selected device

An attempt to route a device leaves it routed, or it leaves nothing routed. Only headsets can fail,
and a connected one is marked as failed then and has no link; a routed headset has the link, and a
pending request is for the routed device.
-/

namespace CallAudio

def Tracker.PendingFor (tracker : Tracker) (device : Option Device) : Prop :=
  ∀ address since, tracker.link = .activating address since →
    device.bind Device.address? = some address

theorem Tracker.pendingFor_of_idle {tracker : Tracker} {device : Option Device}
    (h : tracker.link = .idle) : tracker.PendingFor device := by
  intro address since hPending
  rw [h] at hPending
  cases hPending

namespace Tracker

variable {tracker : Tracker} {address : String}

def denied (tracker : Tracker) (address : String) : Tracker :=
  if address ∈ tracker.addresses then { tracker with link := .idle }.markFailed address else tracker

theorem denied_known (hKnown : address ∈ tracker.addresses) :
    tracker.denied address = { tracker with link := .idle }.markFailed address := if_pos hKnown

theorem denied_unknown (hUnknown : address ∉ tracker.addresses) : tracker.denied address = tracker :=
  if_neg hUnknown

theorem link_denied_known (hKnown : address ∈ tracker.addresses) :
    (tracker.denied address).link = .idle := by
  rw [denied_known hKnown]
  simp [markFailed]

theorem openLink_denied {σ : Type} [Platform σ] {now : Nat} {host : Host σ} {error : RoutingError}
    (h : (tracker.openLink address now host).1 = .error error) :
    error = .linkFailed address ∧ tracker.link.address? ≠ some address ∧
      (tracker.openLink address now host).2.1 = tracker.denied address := by
  rw [openLink] at h ⊢
  split at h
  · cases h
  rename_i hOther
  rw [if_neg hOther]
  split at h
  · rename_i hNone
    have hUnknown : address ∉ tracker.addresses := fun hKnown => by
      simp [Option.isSome_iff_ne_none.mp (isSome_find?_iff.mpr hKnown)] at hNone
    rw [if_pos hNone, denied_unknown hUnknown]
    exact ⟨(Except.error.inj h).symm, hOther, rfl⟩
  · rename_i hFound
    obtain ⟨hReason, hMarked⟩ := requestLink_error h
    rw [if_neg hFound, denied_known (mem_addresses_of_found hFound)]
    exact ⟨hReason, hOther, by rw [hMarked, fst_closeLink]⟩

end Tracker

namespace Route

variable {σ : Type} [Platform σ] {route : Route} {now : Nat} {host : Host σ}

theorem fst_closeAny (tracker : Option Tracker) (host : Host σ) :
    (closeAny tracker host).1 = tracker.map ({ · with link := .idle }) := by
  cases tracker with
  | none => rfl
  | some tracker => exact congrArg some (tracker.fst_closeLink host)

/-- Only the link of a headset that gives way to another kind of device is closed. -/
theorem fst_disable (old : Device) (next : Option Device) (tracker : Option Tracker)
    (host : Host σ) :
    (disable old next tracker host).1 =
      if old.isBluetooth && !next.any (·.isBluetooth) then
        tracker.map ({ · with link := .idle })
      else tracker := by
  cases old with
  | bluetoothHeadset headset =>
    cases hNext : next.any (·.isBluetooth) with
    | true =>
      simp only [disable, hNext, if_true]
      rfl
    | false =>
      simp only [disable, hNext, Bool.false_eq_true, if_false, fst_closeAny]
      rfl
  | _ => rfl

theorem fst_vacate (route : Route) (next : Option Device) (tracker : Option Tracker)
    (host : Host σ) :
    (route.vacate next tracker host).1 =
      if route.routed.any (·.isBluetooth) && !next.any (·.isBluetooth) then
        tracker.map ({ · with link := .idle })
      else tracker := by
  rw [vacate]
  split
  · rename_i old hRouted
    rw [hRouted]
    exact fst_disable old next tracker host
  · rename_i hRouted
    rw [hRouted]
    rfl

theorem failed_vacate (route : Route) (next : Option Device) (base : Tracker) (host : Host σ) :
    ((route.vacate next base.listening? host).1.getD base).failed = base.failed := by
  rw [fst_vacate, Tracker.listening?]
  split <;> split <;> rfl

theorem route_routeTo (route : Route) (device : Option Device) (tracker : Option Tracker) (now : Nat)
    (host : Host σ) :
    (route.routeTo device tracker now host).route =
      { route with routed := (route.routeTo device tracker now host).route.routed } := by
  rw [routeTo]
  split
  · rfl
  cases device with
  | none => rfl
  | some device =>
    simp only
    split <;> rfl

/-- What gives way to a device that is not a headset leaves no request behind. -/
theorem pendingFor_vacate {base : Tracker} (hSound : base.Sound)
    (hPending : base.PendingFor route.routed) {next : Option Device}
    (hNext : next.any (·.isBluetooth) = false) :
    ((route.vacate next base.listening? host).1.getD base).PendingFor next := by
  intro address since hLink
  exfalso
  rw [fst_vacate, hNext] at hLink
  cases hRouted : route.routed.any (·.isBluetooth) with
  | true =>
    rw [hRouted] at hLink
    cases hListening : base.listening with
    | true => simp [Tracker.listening?, hListening] at hLink
    | false => simp [Tracker.listening?, hListening, hSound.link_idle (hSound.silent hListening)] at hLink
  | false =>
    have hSame := base.getD_listening?
    rw [hRouted] at hLink
    have hAddress := hPending address since (by simpa [hSame] using hLink)
    cases hDevice : route.routed with
    | none => simp [hDevice] at hAddress
    | some device =>
      rw [hDevice] at hRouted hAddress
      cases device <;> simp [Device.isBluetooth, Device.address?] at hRouted hAddress

theorem enable_other {device : Device} (h : device.isBluetooth = false) (tracker : Option Tracker)
    (now : Nat) (host : Host σ) :
    (enable device tracker now host).1 = .ok () ∧
      (enable device tracker now host).2.1 = tracker := by
  cases device with
  | bluetoothHeadset headset => cases h
  | _ => exact ⟨rfl, rfl⟩

theorem enable_ok {headset : Headset} {tracker : Option Tracker}
    (h : (enable (.bluetoothHeadset headset) tracker now host).1 = .ok ()) (base : Tracker) :
    ((enable (.bluetoothHeadset headset) tracker now host).2.1.getD base).link.address? =
        some headset.address ∧
      ((enable (.bluetoothHeadset headset) tracker now host).2.1.getD base).failed =
        (tracker.getD base).failed := by
  cases tracker with
  | none => cases h
  | some tracker => exact Tracker.openLink_ok h

theorem enable_denied {headset : Headset} {tracker : Option Tracker} {error : RoutingError}
    (h : (enable (.bluetoothHeadset headset) tracker now host).1 = .error error) :
    error = .linkFailed headset.address ∧
      (∀ base, tracker = some base → base.link.address? ≠ some headset.address) ∧
      (enable (.bluetoothHeadset headset) tracker now host).2.1 =
        tracker.map (·.denied headset.address) := by
  cases tracker with
  | none => exact ⟨(Except.error.inj h).symm, nofun, rfl⟩
  | some tracker =>
    obtain ⟨hReason, hOther, hDenied⟩ := Tracker.openLink_denied h
    refine ⟨hReason, ?_, congrArg some hDenied⟩
    rintro _ ⟨⟩
    exact hOther

theorem routeTo_idle {device : Option Device} (h : route.isRouting = false ∨ route.routed = device)
    (tracker : Option Tracker) (now : Nat) (host : Host σ) :
    route.routeTo device tracker now host = ⟨.ok (), route, tracker, host⟩ := by
  refine if_pos ?_
  obtain h | h := h <;> simp [h]

theorem pendingFor_of_address {tracker : Tracker} {device : Option Device} {address : String}
    (hLink : tracker.link.address? = some address)
    (hDevice : device.bind Device.address? = some address) : tracker.PendingFor device := by
  intro other since hOther
  rw [hOther] at hLink
  exact hDevice.trans hLink.symm

/-- A device that could be routed is routed, and a routed headset has the link. -/
theorem routeTo_ok {base : Tracker} (hSound : base.Sound) (hPending : base.PendingFor route.routed)
    {device : Option Device} (hRouting : route.isRouting = true) (hOther : route.routed ≠ device)
    (hOk : (route.routeTo device base.listening? now host).result = .ok ()) :
    let outcome := route.routeTo device base.listening? now host
    outcome.route = { route with routed := device } ∧
      (outcome.tracker.getD base).failed = base.failed ∧
      (outcome.tracker.getD base).PendingFor device ∧
      ∀ headset, device = some (.bluetoothHeadset headset) →
        (outcome.tracker.getD base).link.address? = some headset.address := by
  have hBusy : ¬(!route.isRouting || route.routed = device) = true := by simp [hRouting, hOther]
  have hVacated := failed_vacate route device base host
  rw [routeTo, if_neg hBusy] at hOk ⊢
  cases device with
  | none =>
    exact ⟨rfl, hVacated, pendingFor_vacate hSound hPending rfl, by simp⟩
  | some device =>
    simp only at hOk ⊢
    split at hOk
    · rename_i hEnabled
      refine ⟨rfl, ?_⟩
      cases hBluetooth : device.isBluetooth with
      | false =>
        obtain ⟨_, hTracker⟩ := enable_other hBluetooth
          (route.vacate (some device) base.listening? host).1 now
          (route.vacate (some device) base.listening? host).2
        simp only [hTracker]
        refine ⟨hVacated, pendingFor_vacate hSound hPending (by simp [hBluetooth]), ?_⟩
        rintro headset ⟨⟩
        cases hBluetooth
      | true =>
        obtain ⟨headset, rfl⟩ := Device.isBluetooth_iff.mp hBluetooth
        obtain ⟨hLink, hFailed⟩ := enable_ok hEnabled base
        refine ⟨hFailed.trans hVacated, pendingFor_of_address hLink rfl, ?_⟩
        rintro _ ⟨⟩
        exact hLink
    · cases hOk

/-- Only a headset without a link cannot be routed. Nothing is routed then, and the tracker is left
as the attempt to open the link leaves it. -/
theorem routeTo_denied {device : Option Device} {tracker : Option Tracker} {error : RoutingError}
    (hError : (route.routeTo device tracker now host).result = .error error) :
    let outcome := route.routeTo device tracker now host
    (route.isRouting = true ∧ route.routed ≠ device) ∧
      outcome.route = { route with routed := none } ∧
      ∃ headset, device = some (.bluetoothHeadset headset) ∧ error = .linkFailed headset.address ∧
        (∀ base, tracker = some base → base.link.address? ≠ some headset.address) ∧
        outcome.tracker = tracker.map (·.denied headset.address) := by
  rw [routeTo] at hError ⊢
  split at hError
  · cases hError
  rename_i hBusy
  rw [if_neg hBusy]
  cases device with
  | none => cases hError
  | some device =>
    simp only at hError ⊢
    split at hError
    · cases hError
    rename_i failure hFailure
    cases hBluetooth : device.isBluetooth with
    | false =>
      rw [(enable_other hBluetooth _ now _).1] at hFailure
      cases hFailure
    | true =>
      obtain ⟨headset, rfl⟩ := Device.isBluetooth_iff.mp hBluetooth
      have hTracker : (route.vacate (some (.bluetoothHeadset headset)) tracker host).1 = tracker := by
        simp [fst_vacate, Device.isBluetooth]
      rw [hTracker] at hFailure ⊢
      obtain ⟨hReason, hOther, hDenied⟩ := enable_denied hFailure
      cases hError
      exact ⟨by simpa using hBusy, rfl, headset, rfl, hReason, hOther, hDenied⟩

/-- A known headset that cannot be routed is marked as failed, and there is no link. -/
theorem routeTo_error {base : Tracker} {device : Option Device} {error : RoutingError}
    (hKnown : ∀ headset, device = some (.bluetoothHeadset headset) →
      base.listening = true ∧ (base.find? headset.address).isSome)
    (hError : (route.routeTo device base.listening? now host).result = .error error) :
    let outcome := route.routeTo device base.listening? now host
    ∃ headset, device = some (.bluetoothHeadset headset) ∧
      outcome.route = { route with routed := none } ∧
      (outcome.tracker.getD base).link = .idle ∧
      (outcome.tracker.getD base).failed = (base.markFailed headset.address).failed := by
  intro outcome
  obtain ⟨_, hRoute, headset, hHeadset, _, _, hDenied⟩ := routeTo_denied hError
  obtain ⟨hListening, hFound⟩ := hKnown headset hHeadset
  have hAddress : headset.address ∈ base.addresses := Tracker.isSome_find?_iff.mp hFound
  have hTracker : outcome.tracker.getD base = base.denied headset.address := by
    rw [hDenied, Tracker.listening?, if_pos hListening]
    rfl
  refine ⟨headset, hHeadset, hRoute, ?_, ?_⟩
  · rw [hTracker, Tracker.link_denied_known hAddress]
  · rw [hTracker, Tracker.denied_known hAddress]
    rfl

end Route

end CallAudio
