import CallAudio.Proofs.Attempts

/-! # What a change of route tells the platform

A change of route silences the device that is heard and makes the next one heard. A link that is
still open is closed before another one is asked for. While no link is open, one command at most
makes a device heard, and it is the last one.
-/

namespace CallAudio

def Device.raising : Device → List Command
  | bluetoothHeadset headset => [.enableLink headset.address]
  | speakerphone => [.setSpeakerphone true]
  | _ => []

theorem Device.address?_of_raising {device : Device} {address : String}
    (h : .enableLink address ∈ device.raising) : device.address? = some address := by
  cases device <;> simp_all [raising, address?]

def Device.pending (now : Nat) : Device → Link
  | bluetoothHeadset headset => .activating headset.address now
  | _ => .idle

/-- How a device that is heard is silenced when it gives way to `next`. Between two headsets the
link is left alone. -/
def Device.yielding (next : Option Device) (tracker : Option Tracker) : Device → List Command
  | bluetoothHeadset _ =>
    if next.any (·.isBluetooth) then []
    else if tracker.any (·.link ≠ .idle) then [.disableLink]
    else []
  | speakerphone => [.setSpeakerphone false]
  | _ => []

/-- What opening the link to a headset tells the platform. -/
def Tracker.opening (tracker : Tracker) (address : String) : List Command :=
  if tracker.link.address? = some address ∨ (tracker.find? address).isNone then []
  else (if tracker.link = .idle then [] else [.disableLink]) ++ [.enableLink address]

theorem Tracker.opening_idle {tracker : Tracker} {address : String} (hIdle : tracker.link = .idle)
    (hKnown : (tracker.find? address).isSome) : tracker.opening address = [.enableLink address] := by
  have hUnknown : (tracker.find? address).isNone = false := by
    rw [← Option.not_isSome, hKnown]
    rfl
  simp [opening, hIdle, hUnknown, Link.address?]

namespace Route

def vacating (route : Route) (next : Option Device) (tracker : Option Tracker) : List Command :=
  route.routed.elim [] (·.yielding next tracker)

def enabling (tracker : Option Tracker) (device : Device) : List Command :=
  match device, tracker with
  | .bluetoothHeadset headset, some tracker => tracker.opening headset.address
  | .bluetoothHeadset _, none => []
  | device, _ => device.raising

/-- Without a link to close, only the loudspeaker has to be silenced. -/
theorem vacating_idle {route : Route} {tracker : Option Tracker} (next : Option Device)
    (hIdle : tracker.all (·.link = .idle)) (hQuiet : route.routed ≠ some .speakerphone) :
    route.vacating next tracker = [] := by
  have hClosed : tracker.any (·.link ≠ .idle) = false := by
    cases tracker with
    | none => rfl
    | some tracker => simpa using hIdle
  rw [vacating]
  cases hRouted : route.routed with
  | none => rfl
  | some old =>
    cases old with
    | bluetoothHeadset headset =>
      simp only [Option.elim_some, Device.yielding, hClosed]
      split <;> rfl
    | speakerphone => exact absurd hRouted hQuiet
    | _ => rfl

variable {σ : Type} [Platform σ]

theorem routeTo_enabled {route : Route} {device : Device} (hRouting : route.isRouting = true)
    (hOther : route.routed ≠ some device) (tracker : Option Tracker) (now : Nat) (host : Host σ) :
    let vacated := route.vacate (some device) tracker host
    let enabled := enable device vacated.1 now vacated.2
    (route.routeTo (some device) tracker now host).result = enabled.1 ∧
      (route.routeTo (some device) tracker now host).tracker = enabled.2.1 := by
  intro vacated enabled
  rw [routeTo, if_neg (by simp [hRouting, hOther])]
  simp only
  split
  · rename_i hOk
    exact ⟨hOk.symm, rfl⟩
  · rename_i error hError
    exact ⟨hError.symm, rfl⟩

end Route

variable {σ : Type} [Platform σ]

namespace Issued

theorem requestLink (tracker : Tracker) (address : String) (now : Nat) (host : Host σ) :
    Issued [.enableLink address] host (tracker.requestLink address now host).2.2 := by
  rw [Tracker.requestLink]
  have hAsked := (write host (.debug "Attempting to enable Bluetooth SCO"
    [("address", address)])).trans (enableLink _ address)
  generalize (host.write _).enableLink address = asked at *
  obtain ⟨result, asked⟩ := asked
  cases result with
  | ok => exact hAsked
  | error reason => exact hAsked.trans (writeAll asked _)

theorem openLink (tracker : Tracker) (address : String) (now : Nat) (host : Host σ) :
    Issued (tracker.opening address) host (tracker.openLink address now host).2.2 := by
  rw [Tracker.openLink, Tracker.opening]
  by_cases hSame : tracker.link.address? = some address
  · rw [if_pos hSame, if_pos (.inl hSame)]
    exact write host _
  cases hUnknown : (tracker.find? address).isNone with
  | true =>
    rw [if_neg hSame, if_pos rfl, if_pos (.inr rfl)]
    exact write host _
  | false =>
    have hKnown : ¬(tracker.link.address? = some address ∨ false = true) := by simp [hSame]
    rw [if_neg hSame, if_neg Bool.false_ne_true, if_neg hKnown]
    exact (closeLink tracker host).trans (requestLink _ address now _)

theorem closeAny (tracker : Option Tracker) (host : Host σ) :
    Issued (if tracker.any (·.link ≠ .idle) then [.disableLink] else []) host
      (Route.closeAny tracker host).2 := by
  cases tracker with
  | none => exact refl host
  | some tracker =>
    refine (closeLink tracker host).cast ?_
    by_cases hIdle : tracker.link = .idle <;> simp [hIdle]

theorem disable (old : Device) (next : Option Device) (tracker : Option Tracker) (host : Host σ) :
    Issued (old.yielding next tracker) host (Route.disable old next tracker host).2 := by
  have hWritten := write host (.debug "Disabling audio device" [("device", old.text)])
  cases old with
  | bluetoothHeadset headset =>
    cases hNext : next.any (·.isBluetooth) with
    | true =>
      simp only [Route.disable, Device.yielding, hNext, if_true]
      exact hWritten
    | false =>
      simp only [Route.disable, Device.yielding, hNext, Bool.false_eq_true, if_false]
      exact hWritten.trans (closeAny tracker _)
  | speakerphone => exact hWritten.trans (issue _ _)
  | earpiece => exact hWritten
  | wiredHeadset => exact hWritten

theorem vacate (route : Route) (next : Option Device) (tracker : Option Tracker) (host : Host σ) :
    Issued (route.vacating next tracker) host (route.vacate next tracker host).2 := by
  rw [Route.vacate, Route.vacating]
  cases route.routed with
  | none => exact refl host
  | some old => exact disable old next tracker host

theorem enable (device : Device) (tracker : Option Tracker) (now : Nat) (host : Host σ) :
    Issued (Route.enabling tracker device) host (Route.enable device tracker now host).2.2 := by
  have hWritten := write host (.info "Routing audio" [("device", device.text)])
  cases device with
  | bluetoothHeadset headset =>
    cases tracker with
    | none => exact hWritten
    | some tracker => exact hWritten.trans (openLink tracker headset.address now _)
  | speakerphone => exact hWritten.trans (issue _ _)
  | earpiece => exact hWritten
  | wiredHeadset => exact hWritten

/-- First the routed device is silenced, then the next one is made heard. -/
theorem routeTo {route : Route} {device : Option Device} (hRouting : route.isRouting = true)
    (hOther : route.routed ≠ device) (tracker : Option Tracker) (now : Nat) (host : Host σ) :
    Issued (route.vacating device tracker ++
        device.elim [] (Route.enabling (route.vacate device tracker host).1)) host
      (route.routeTo device tracker now host).host := by
  have hVacated := vacate route device tracker host
  rw [Route.routeTo, if_neg (by simp [hRouting, hOther])]
  cases device with
  | none => exact hVacated.cast (List.append_nil _).symm
  | some device =>
    have hBoth := hVacated.trans (enable device (route.vacate (some device) tracker host).1 now _)
    simp only
    split <;> exact hBoth

end Issued

/-- A request that was made while no link was open is pending from this moment. -/
theorem Tracker.openLink_idle {tracker : Tracker} {address : String} {now : Nat} {host : Host σ}
    (hIdle : tracker.link = .idle) (hKnown : (tracker.find? address).isSome)
    (hOk : (tracker.openLink address now host).1 = .ok ()) :
    (tracker.openLink address now host).2.1 = { tracker with link := .activating address now } := by
  have hOther : ¬tracker.link.address? = some address := by simp [hIdle, Link.address?]
  have hFound : ¬(tracker.find? address).isNone := by simpa using Option.isSome_iff_ne_none.mp hKnown
  have hClosed : tracker.closeLink host = (tracker, host) := by rw [closeLink, if_pos hIdle]
  rw [openLink, if_neg hOther, if_neg hFound, hClosed] at hOk ⊢
  rw [requestLink] at hOk ⊢
  revert hOk
  cases (host.write _).enableLink address with
  | mk result asked => cases result <;> simp

namespace Switch

variable {switch before after stop : Switch σ} {now : Nat} {rejected : List Device}
  {headset : Headset} {headsets : List Headset}

/-- The selected device is still to be heard, and nothing has to be silenced for it. -/
structure Vacant (switch : Switch σ) : Prop extends Poised switch where
  routing : switch.route.isRouting = true
  idle : switch.tracker.link = .idle
  quiet : switch.route.routed ≠ some .speakerphone
  unheard : switch.route.routed ≠ switch.selector.selected

theorem Vacant.vacated (h : switch.Vacant) (next : Option Device) (host : Host σ) :
    (switch.route.vacate next switch.tracker.listening? host).1 = switch.tracker.listening? := by
  rw [Route.fst_vacate, Tracker.listening?]
  split
  · split
    · rw [Option.map_some, ← h.idle]
    · rfl
  · rfl

/-- An attempt says no more than it takes to hear the selected device, whether it succeeds or not.
-/
theorem Vacant.issued_routeOnce (h : switch.Vacant) {device : Device}
    (hSelected : switch.selector.selected = some device) (now : Nat) :
    Issued device.raising switch.host (switch.routeOnce now).2.host := by
  have hClosed : switch.tracker.listening?.all (·.link = .idle) := by
    rw [Tracker.listening?]
    split
    · simpa using h.idle
    · rfl
  have hIssued := Issued.routeTo h.routing h.unheard switch.tracker.listening? now switch.host
  rw [Route.vacating_idle _ hClosed h.quiet, List.nil_append, hSelected] at hIssued
  rw [routeOnce, hSelected]
  refine hIssued.cast ?_
  cases device with
  | bluetoothHeadset headset =>
    obtain ⟨hListening, hKnown⟩ := h.selected_known hSelected
    rw [h.vacated, Tracker.listening?, if_pos hListening]
    exact Tracker.opening_idle h.idle hKnown
  | _ => rfl

/-- A device that was routed has a request that begins at this moment, if it is a headset. -/
theorem Vacant.tracker_routeOnce (h : switch.Vacant) {device : Device}
    (hSelected : switch.selector.selected = some device) (hOk : (switch.routeOnce now).1 = .ok ()) :
    (switch.routeOnce now).2.tracker = { switch.tracker with link := device.pending now } := by
  have hOther := h.unheard
  rw [hSelected] at hOther
  obtain ⟨hResult, hTracker⟩ := Route.routeTo_enabled h.routing hOther switch.tracker.listening? now
    switch.host
  rw [routeOnce, hSelected] at hOk ⊢
  simp only [hResult, hTracker, h.vacated] at hOk ⊢
  cases hBluetooth : device.isBluetooth with
  | true =>
    obtain ⟨headset, rfl⟩ := Device.isBluetooth_iff.mp hBluetooth
    obtain ⟨hListening, hKnown⟩ := h.selected_known hSelected
    rw [Tracker.listening?, if_pos hListening] at hOk ⊢
    exact Tracker.openLink_idle h.idle hKnown hOk
  | false =>
    have hIdle : device.pending now = .idle := by
      cases device with
      | bluetoothHeadset headset => cases hBluetooth
      | _ => rfl
    rw [(Route.enable_other hBluetooth _ now _).2, switch.tracker.getD_listening?, hIdle, ← h.idle]

/-- A headset that refuses was asked for a link, and leaves the next device to be heard. -/
theorem Vacant.reject (h : switch.Vacant) (hRejects : Rejects now rejected switch headset after)
    (hRejected : ∀ device ∈ rejected, switch.fails device = true) :
    after.Vacant ∧ Issued [.enableLink headset.address] switch.host after.host ∧
      ∀ device ∈ rejected ++ [.bluetoothHeadset headset], after.fails device = true := by
  obtain ⟨error, hError, hAfter⟩ := hRejects.step
  obtain ⟨device, hDevice, _, hPoised, hSilent, _, hFails⟩ :=
    h.toPoised.routeOnce_error hError hRejected
  cases hRejects.selected.symm.trans hDevice
  rw [← hAfter] at hPoised hSilent hFails
  obtain ⟨_, _, _, hIdle, _⟩ := Route.routeTo_error (fun _ => h.selected_known) hError
  obtain ⟨next, _, hNext, _⟩ := hPoised.settled.selected
  refine ⟨⟨hPoised, ?_, ?_, ?_, ?_⟩, ?_, hFails⟩
  · rw [hRejects.reroutes.isRouting, h.routing]
  · rw [hAfter]
    exact hIdle
  · simp [hSilent]
  · simp [hSilent, hNext]
  · let tried := (switch.routeOnce now).2.write (unroutedLine (.bluetoothHeadset headset) error)
    have hTried : Issued [.enableLink headset.address] switch.host tried.host :=
      (h.issued_routeOnce hRejects.selected now).written _
    rw [hAfter]
    exact hTried.trans (issued_fallBack tried _ _)

theorem Vacant.fallback (h : switch.Vacant) (hFallback : Fallback now rejected switch headsets stop)
    (hRejected : ∀ device ∈ rejected, switch.fails device = true) :
    stop.Vacant ∧ Issued (headsets.map (.enableLink ·.address)) switch.host stop.host := by
  induction hFallback with
  | stop => exact ⟨h, .refl _⟩
  | reject hRejects _ ih =>
    obtain ⟨hAfter, hIssued, hFails⟩ := h.reject hRejects hRejected
    obtain ⟨hStop, hRest⟩ := ih hAfter hFails
    exact ⟨hStop, hIssued.trans hRest⟩

/-- The headsets `refused` are asked for a link one after the other and refuse, and then `device` is
heard. -/
structure Fills (now : Nat) (before after : Switch σ) (refused : List Headset) (device : Device) :
    Prop where
  first : before.selector.selected = (refused.map Device.bluetoothHeadset ++ [device]).head?
  distinct : (refused.map (·.address) ++ device.address?.toList).Nodup
  selected : after.selector.selected = some device
  routed : after.route.routed = some device
  unfailed : after.fails device = false
  issued : Issued (refused.map (.enableLink ·.address) ++ device.raising) before.host after.host
  notices : after.host.notices = before.host.notices ++ before.alarms refused
  free : before.selector.pinned = false → after.selector.pinned = false
  link : after.tracker.link = device.pending now

theorem Vacant.applyRoute (h : switch.Vacant) (now : Nat) :
    ∃ refused device, Fills now switch (switch.applyRoute now) refused device := by
  obtain ⟨refused, stop, _, hFair⟩ := h.toPoised.fallsBackFairly now
  obtain ⟨device, hSelected, hRouted, hUnfailed⟩ := hFair.heard h.routing
  obtain ⟨hStop, hRefused⟩ := h.fallback hFair.attempts (by simp)
  have hStill : stop.selector.selected = some device := by
    rw [← hSelected, hFair.ends]
    rfl
  refine ⟨refused, device, ?_, ?_, hSelected, hRouted, hUnfailed, ?_, hFair.reported, ?_, ?_⟩
  · cases hFair.attempts with
    | stop => exact hStill
    | reject hRejects => exact hRejects.selected
  · refine List.nodup_append.mpr ⟨hFair.attempts.distinct.1, by cases device.address? <;> simp, ?_⟩
    rintro address hTried _ hLast rfl
    obtain ⟨headset, hMem, rfl⟩ := List.mem_map.mp hTried
    exact fails_eq_false_iff.mp hUnfailed _ (Option.mem_toList.mp hLast) (hFair.marked headset hMem)
  · rw [hFair.ends]
    exact hRefused.trans (hStop.issued_routeOnce hStill now)
  · intro hFree
    cases hAttempts : refused with
    | nil =>
      have hNone := hFair.attempts
      rw [hAttempts] at hNone
      cases hNone
      rw [hFair.ends]
      exact hFree
    | cons => exact hFair.unpinned (by simp [hAttempts])
  · rw [hFair.ends, hStop.tracker_routeOnce hStill hFair.attempts.succeeds]

/-- A selected headset is asked for its link before anything else, and only once. -/
theorem Fills.asks_first {refused : List Headset} {device : Device}
    (h : Fills now before after refused device)
    (hSelected : before.selector.selected = some (.bluetoothHeadset headset)) :
    ∃ more, after.host.commands =
      before.host.commands ++ .enableLink headset.address :: more ∧
        .enableLink headset.address ∉ more := by
  have hFirst := hSelected.symm.trans h.first
  have hDistinct := h.distinct
  have hCommands := h.issued.commands
  cases refused with
  | nil =>
    cases hFirst
    exact ⟨[], hCommands, List.not_mem_nil⟩
  | cons other refused =>
    cases hFirst
    refine ⟨refused.map (Command.enableLink ·.address) ++ device.raising, hCommands, ?_⟩
    rw [List.map_cons, List.cons_append, List.nodup_cons, List.mem_append, not_or] at hDistinct
    rw [List.mem_append, not_or]
    refine ⟨fun hTried => ?_, fun hLast => hDistinct.1.2 ?_⟩
    · obtain ⟨again, hMem, hSame⟩ := List.mem_map.mp hTried
      exact hDistinct.1.1 (Command.enableLink.inj hSame ▸ List.mem_map_of_mem hMem)
    · exact Option.mem_toList.mpr (Device.address?_of_raising hLast)

/-- A headset that is asked before anything else answers as the platform stands. -/
theorem Vacant.routeOnce_granted (h : switch.Vacant)
    (hGrants : ∀ headset, switch.selector.selected = some (.bluetoothHeadset headset) →
      (Platform.linkAnswer switch.host.platform headset.address).isRefused = false) (now : Nat) :
    (switch.routeOnce now).1 = .ok () := by
  rcases h.toPoised.attempt_routeOnce now with ⟨hOk, _⟩ | ⟨headset, hSelected, hAttempt⟩
  · exact hOk
  have hAll := h.issued_routeOnce hSelected now
  generalize (switch.routeOnce now).1 = result at hAttempt ⊢
  cases hAttempt with
  | spared => rfl
  | granted => rfl
  | refused error hAsks =>
    obtain ⟨asking, ⟨issued, hBefore, _⟩, hRefused, hAsked⟩ := hAsks
    -- The request is all that the attempt issued, so nothing changed the platform before it.
    have hSame : issued ++ [.enableLink headset.address] = [.enableLink headset.address] :=
      List.append_cancel_left ((hBefore.trans hAsked).commands.symm.trans hAll.commands)
    obtain rfl : issued = [] := by simpa using hSame
    have hPlatform : asking.platform = switch.host.platform := hBefore.platform
    rw [hPlatform, hGrants headset hSelected] at hRefused
    cases hRefused

/-- If the selected device cannot refuse, it is the only one that is asked, and the selection stays.
-/
theorem Vacant.applyRoute_granted (h : switch.Vacant) {device : Device}
    (hSelected : switch.selector.selected = some device)
    (hGrants : ∀ headset, device = .bluetoothHeadset headset →
      (Platform.linkAnswer switch.host.platform headset.address).isRefused = false) (now : Nat) :
    Issued device.raising switch.host (switch.applyRoute now).host ∧
      ∃ host, switch.applyRoute now = { switch with
        route := { switch.route with routed := some device }
        tracker := { switch.tracker with link := device.pending now }
        host } := by
  have hOk := h.routeOnce_granted
    (fun headset hHeadset => hGrants headset (Option.some.inj (hSelected.symm.trans hHeadset))) now
  have hTracker := h.tracker_routeOnce hSelected hOk
  have hRoute : (switch.routeOnce now).2.route = { switch.route with routed := some device } := by
    rw [← hSelected]
    exact (Route.routeTo_ok h.sound h.pending h.routing h.unheard hOk).1
  rw [Switch.applyRoute, routeWithin_ok hOk]
  refine ⟨h.issued_routeOnce hSelected now, (switch.routeOnce now).2.host, ?_⟩
  rw [← hTracker, ← hRoute]
  rfl

end Switch

end CallAudio
