import CallAudio.Proofs.LinkCommands

/-! # What a beat does to the link

A beat leaves the link to the replies, or closes it, or ends with a request for it. If it gives the
routed headset another place, the headset has the link in the end.
-/

namespace CallAudio.Switch

variable {σ : Type} {order : PreferredOrder} {before middle after switch : Switch σ}

inductive Linkage (before after : Switch σ) : Prop
  | heeded (h : before.Heeds after)
  | closed (h : after.tracker.link = .idle)
  | asked (address : String) (since : Nat) (hLink : after.tracker.link = .activating address since)
    (hLast : after.host.linkCommands.getLast? = some (.enableLink address))

/-- The routed device stays, and nothing is said about links. -/
def Idles (before after : Switch σ) : Prop :=
  after.host.linkCommands = before.host.linkCommands ∧ after.route.routed = before.route.routed

structure Relinks (before after : Switch σ) : Prop where
  link : before.Linkage after
  routed : after.Linked ∨ before.Idles after

theorem linked_of_none (h : switch.route.routed = none) : switch.Linked := by
  intro headset hRouted
  rw [h] at hRouted
  cases hRouted

theorem Linked.congr (h : switch.Linked) (hRouted : after.route.routed = switch.route.routed)
    (hLink : after.tracker.link = switch.tracker.link) : after.Linked := by
  intro headset hHeadset
  rw [hLink]
  exact h headset (hRouted ▸ hHeadset)

theorem announce_eq (switch : Switch σ) (view : List Device × Option Device) :
    (switch.announce view).route = switch.route ∧
      (switch.announce view).tracker = switch.tracker := by
  rw [announce]
  split <;> exact ⟨rfl, rfl⟩

theorem Relinks.refl (switch : Switch σ) : switch.Relinks switch :=
  ⟨.heeded (.refl switch), .inr ⟨rfl, rfl⟩⟩

theorem relinks_of_same (hLink : after.tracker.link = before.tracker.link)
    (hCommands : after.host.linkCommands = before.host.linkCommands)
    (hRouted : after.route.routed = before.route.routed) : before.Relinks after :=
  ⟨.heeded ⟨hCommands, .inl hLink⟩, .inr ⟨hCommands, hRouted⟩⟩

theorem Consistent.not_failed (h : Consistent order switch) {device : Device}
    (hRouted : switch.route.routed = some device) {address : String}
    (hAddress : device.address? = some address) : address ∉ switch.tracker.failed := by
  have hRunning : switch.phase ≠ .stopped := by
    rw [h.phase_of_routed hRouted]
    decide
  obtain ⟨other, _, hOther, hFails⟩ := (h.settled hRunning).selected
  cases (h.selected_of_routed hRouted).symm.trans hOther
  exact fails_eq_false_iff.mp hFails address hAddress

variable [Platform σ]

theorem Heeds.reroute (h : before.Heeds middle)
    (hSteps : LinkSteps (middle.tracker, middle.host) (after.tracker, after.host)) :
    before.Linkage after := by
  rcases hSteps.commands with ⟨hLink, hCommands⟩ | hIdle | ⟨address, since, hLink, hLast⟩
  · exact .heeded (h.trans ⟨hCommands, .inl hLink⟩)
  · exact .closed hIdle
  · exact .asked address since hLink hLast

/-- Routing moves nothing, or a headset that is routed in the end has the link. -/
theorem Poised.applyRoute_linked (h : switch.Poised) (view : List Device × Option Device)
    (now : Nat) :
    let after := (switch.applyRoute now).announce view
    after.Linked ∨ switch.Idles after := by
  obtain ⟨_, _, hMoved⟩ := h.applyRoute now
  obtain ⟨hRoute, hTracker⟩ := announce_eq (switch.applyRoute now) view
  rcases hMoved with hSame | hLinked
  · refine .inr ⟨?_, ?_⟩
    · have hTold := ((switch.applyRoute now).issued_announce view).linkCommands_other (by simp)
      rwa [hSame] at hTold ⊢
    · rw [hRoute, hSame]
  · exact .inl (hLinked.congr (congrArg Route.routed hRoute) (congrArg Tracker.link hTracker))

theorem Steady.refreshSince_linked (h : Steady order switch) (hUnspoiled : switch.Unspoiled)
    (view : List Device × Option Device) (now : Nat) :
    (switch.refreshSince view now).Linked ∨ switch.Idles (switch.refreshSince view now) := by
  rcases (h.poised hUnspoiled).applyRoute_linked view now with hLinked | ⟨hCommands, hRouted⟩
  · exact .inl hLinked
  · exact .inr ⟨hCommands.trans (Host.linkCommands_writeAll _ _), hRouted⟩

/-- What was heard first is of no account to what routing does then. -/
theorem Heeds.relinks (h : before.Heeds middle)
    (hRouted : middle.route.routed = before.route.routed ∨ middle.route.routed = none)
    (hReroutes : middle.Reroutes after) (hMoved : after.Linked ∨ middle.Idles after) :
    before.Relinks after := by
  refine ⟨h.reroute hReroutes.steps, ?_⟩
  rcases hMoved with hLinked | ⟨hCommands, hSame⟩
  · exact .inl hLinked
  rcases hRouted with hKept | hNone
  · exact .inr ⟨hCommands.trans h.1, hSame.trans hKept⟩
  · exact .inl (linked_of_none (hSame.trans hNone))

theorem Consistent.next_relinks (h : Consistent order switch) (now : Nat) :
    switch.Relinks ((switch.next? now).getD switch) := by
  rw [next?]
  split
  · exact .refl switch
  rename_i callback rest _
  have hTaken : Consistent order { switch with host := { switch.host with queue := rest } } :=
    h.requeue rest
  have hHeeds : switch.Heeds
      { switch with host := { switch.host with queue := rest } } := ⟨rfl, .inl rfl⟩
  have hRouted : ({ switch with host := { switch.host with queue := rest } } :
    Switch σ).route.routed = switch.route.routed := rfl
  simp only [Option.getD_some]
  generalize ({ switch with host := { switch.host with queue := rest } } : Switch σ) = taken at *
  have hHeard := hHeeds.trans (heeds_applyCallback taken callback)
  have hReleased : (taken.applyCallback callback).2.route.routed = switch.route.routed ∨
      (taken.applyCallback callback).2.route.routed = none := by
    rcases taken.route_applyCallback callback with hSame | hNone
    · exact .inl ((congrArg Route.routed hSame).trans hRouted)
    · exact .inr (congrArg Route.routed hNone)
  cases hChanged : (taken.applyCallback callback).1 with
  | false =>
    rw [handle_unchanged hChanged]
    exact hHeard.relinks hReleased (.refl _) (.inr ⟨rfl, rfl⟩)
  | true =>
    rw [handle_changed hChanged]
    have hSteady := hTaken.toSteady.applyCallback callback
    have hUnspoiled := hTaken.unspoiled.applyCallback hTaken.sound hTaken.anchored callback
    exact hHeard.relinks hReleased (reroutes_refreshSince _ _ now)
      (hSteady.refreshSince_linked hUnspoiled _ now)

/-- A headset whose request timed out is routed no longer. -/
theorem Consistent.poll_relinks (h : Consistent order switch) (now : Nat) :
    switch.Relinks (switch.poll now) := by
  have hAfter := h.poll now
  rcases h.poll_cases now with
    hSame | ⟨yielded, address, since, hLink, hFailed, hRoute, hReroutes, hSteady, hUnspoiled,
      hRunning, hRefresh⟩
  · rw [hSame]
    exact .refl switch
  have hRefreshed := reroutes_refreshSince yielded yielded.view now
  rw [hRefresh, refresh] at hAfter ⊢
  refine ⟨(Heeds.refl switch).reroute (hReroutes.trans hRefreshed).steps, ?_⟩
  rcases hSteady.refreshSince_linked hUnspoiled yielded.view now with hLinked | ⟨_, hKept⟩
  · exact .inl hLinked
  -- The pending request was for the routed headset, which failed and cannot stay routed.
  obtain ⟨device, hRouted, hAddress⟩ := Option.bind_eq_some_iff.mp (h.pending address since hLink)
  rw [hRoute, hRouted] at hKept
  exact absurd (hRefreshed.steps.headsets.2.2 address hFailed)
    (hAfter.not_failed hKept hAddress)

theorem Consistent.choose_relinks (h : Consistent order switch) (device : Device) (now : Nat) :
    switch.Relinks (switch.choose device now) := by
  rw [Switch.choose]
  split
  · exact relinks_of_same rfl (Host.linkCommands_write _ _) rfl
  rename_i hRunning
  split
  · exact relinks_of_same rfl (Host.linkCommands_write _ _) rfl
  rename_i hMem
  have hMem : device ∈ switch.selector.available := by simpa using hMem
  have hLink : (switch.pinTo device).tracker.link = switch.tracker.link := by
    rcases Tracker.forgive_eq switch.tracker device with hSame | ⟨address, hClear⟩
    · rw [pinTo, hSame]
    · rw [pinTo, hClear]
      rfl
  have hHeeds : switch.Heeds (switch.pinTo device) := ⟨rfl, .inl hLink⟩
  exact hHeeds.relinks (.inl rfl) (reroutes_refreshSince _ _ now)
    ((h.toSteady.pinTo hRunning device).refreshSince_linked (unspoiled_pinTo h.sound hMem) _ now)

theorem Consistent.unchoose_relinks (h : Consistent order switch) (now : Nat) :
    switch.Relinks (switch.unchoose now) := by
  rw [Switch.unchoose]
  split
  · exact .refl switch
  rename_i hPinned
  have hRunning : switch.phase ≠ .stopped := fun hStopped => hPinned (.inl hStopped)
  have hFreed : Steady order { switch with selector := switch.selector.clearPin } :=
    h.toSteady.reselect hRunning rfl rfl rfl rfl
  have hHeeds : switch.Heeds { switch with selector := switch.selector.clearPin } := ⟨rfl, .inl rfl⟩
  exact hHeeds.relinks (.inl rfl) (reroutes_refreshSince _ _ now)
    (hFreed.refreshSince_linked (unspoiled_of_free rfl) _ now)

theorem Consistent.engage_relinks (h : Consistent order switch) (now : Nat) :
    switch.Relinks (switch.engage now).2 := by
  rw [Switch.engage]
  split
  · exact .refl switch
  rename_i hRunning
  have hTaken := activate_eq switch.route switch.host
  have hCommands := switch.route.linkCommands_activate switch.host
  generalize switch.route.activate switch.host = taken at *
  obtain ⟨result, route, host⟩ := taken
  obtain ⟨_, hRouted, _⟩ := hTaken
  simp only at hRouted hCommands ⊢
  cases result with
  | error error => exact relinks_of_same rfl ((Host.linkCommands_write _ _).trans hCommands) hRouted
  | ok =>
    have hReady : Poised { switch with phase := .activated, route, host } :=
      ⟨h.sound, (h.settled hRunning).congr rfl rfl rfl rfl, hRouted.symm ▸ h.pending⟩
    have hHeeds : switch.Heeds { switch with phase := .activated, route, host } :=
      ⟨hCommands, .inl rfl⟩
    exact hHeeds.relinks (.inl hRouted)
      ((reroutes_applyRoute _ now).trans (reroutes_announce _ _)) (hReady.applyRoute_linked _ now)

theorem Steady.deactivateRoute_relinks (h : Steady order switch) :
    switch.Relinks switch.deactivateRoute := by
  obtain ⟨_, _, _, _, _, _, _, hRouted⟩ := h.deactivateRoute
  refine ⟨?_, .inl (linked_of_none hRouted)⟩
  have hTracker := tracker_deactivateRoute h.sound
  have hCommands := linkCommands_deactivateRoute h.sound
  cases hHeadset : switch.route.activated && switch.route.routed.any (·.isBluetooth) with
  | true =>
    rw [hHeadset, if_pos rfl] at hTracker
    exact .closed (congrArg Tracker.link hTracker)
  | false =>
    rw [hHeadset] at hTracker hCommands
    exact .heeded ⟨hCommands.trans (List.append_nil _), .inl (congrArg Tracker.link hTracker)⟩

theorem Consistent.disengage_relinks (h : Consistent order switch) :
    switch.Relinks switch.disengage := by
  rw [Switch.disengage]
  split
  · exact .refl switch
  · obtain ⟨hLink, hRouted⟩ := h.toSteady.deactivateRoute_relinks
    refine ⟨?_, hRouted⟩
    cases hLink with
    | heeded hHeeds => exact .heeded hHeeds
    | closed hIdle => exact .closed hIdle
    | asked address since hAsked hLast => exact .asked address since hAsked hLast

theorem Consistent.stop_relinks (h : Consistent order switch) : switch.Relinks switch.stop := by
  rw [Switch.stop]
  split
  · exact .refl switch
  have hWritten : Steady order (switch.write (.info "Stopping audio switch" [])) :=
    h.toSteady.congr rfl rfl rfl rfl
  obtain ⟨hSound, _, _, _, _, _, _, hRouted⟩ := hWritten.deactivateRoute
  generalize (switch.write (.info "Stopping audio switch" [])).deactivateRoute = silenced at *
  have hTracker : silenced.leave.tracker = .idle silenced.tracker.timeout :=
    tracker_stop hSound silenced.host
  exact ⟨.closed (congrArg Tracker.link hTracker), .inl (linked_of_none hRouted)⟩

theorem heeds_startBluetooth (switch : Switch σ) : switch.Heeds switch.startBluetooth := by
  obtain ⟨_, _, hEq, _⟩ := startBluetooth_eq switch
  exact ⟨linkCommands_startBluetooth switch, .inl (by rw [hEq])⟩

theorem heeds_startWired (switch : Switch σ) : switch.Heeds switch.startWired := by
  obtain ⟨_, _, hEq⟩ := startWired_eq switch
  exact ⟨linkCommands_startWired switch, .inl (by rw [hEq])⟩

/-- A new session makes no request: nothing is routed before the first activation. -/
theorem Consistent.start_relinks (h : Consistent order switch) (listener : Option Nat)
    (now : Nat) : switch.Relinks (switch.start listener now) := by
  rw [Switch.start]
  split
  · exact relinks_of_same rfl (Host.linkCommands_write _ _) rfl
  rename_i hPhase
  obtain ⟨hBegun, hUnspoiled, hStarted⟩ := h.begin (by simpa using hPhase) listener
  have hHeeds : switch.Heeds (switch.enter listener).startBluetooth.startWired.absorb :=
    (((heeds_enter switch listener).trans (heeds_startBluetooth _)).trans
      (heeds_startWired _)).trans (heeds_absorb _)
  generalize (switch.enter listener).startBluetooth.startWired.absorb = begun at *
  have hSilent : (begun.recompute []).route.isRouting = false :=
    hBegun.silent_of_phase (by rw [hStarted]; decide)
  have hSame := applyRoute_of_silent hSilent now
  simp only [hSame]
  refine ⟨.heeded (hHeeds.trans ⟨?_, .inl rfl⟩), .inl (linked_of_none (hBegun.quiet hSilent))⟩
  have hTold := (begun.recompute []).issued_notifyDevices.linkCommands_other (by simp)
  exact hTold.trans (Host.linkCommands_writeAll _ _)

theorem resume_relinks (switch : Switch σ) : switch.Relinks switch.resume := by
  rw [Switch.resume]
  split
  · have hWritten := linkCommands_startBluetooth
      (switch.write (.info "Bluetooth permission granted, starting headset tracking" []))
    obtain ⟨_, _, hEq, _⟩ := startBluetooth_eq
      (switch.write (.info "Bluetooth permission granted, starting headset tracking" []))
    rw [hEq] at hWritten ⊢
    exact relinks_of_same rfl (hWritten.trans (Host.linkCommands_write _ _)) rfl
  · exact .refl switch

theorem Consistent.relinks (h : Consistent order switch) (beat : Beat) :
    switch.Relinks (switch.beat beat) := by
  cases beat with
  | callback now => exact h.next_relinks now
  | poll now => exact h.poll_relinks now
  | act operation now =>
    cases operation with
    | start listener => exact h.start_relinks listener now
    | stop => exact h.stop_relinks
    | activate => exact h.engage_relinks now
    | deactivate => exact h.disengage_relinks
    | select device => exact h.choose_relinks device now
    | clearSelection => exact h.unchoose_relinks now
    | hostResumed => exact resume_relinks switch
    | pump | poll | next => exact .refl switch
    | _ => exact relinks_of_same rfl rfl rfl

end CallAudio.Switch
