import CallAudio.Proofs.Fallback
import CallAudio.Proofs.Run

/-! # Operations keep a switch consistent

A steady switch becomes a consistent one by selecting anew and routing. Every operation ends so, or
leaves the selection as it is.
-/

namespace CallAudio.Switch

variable {σ : Type} {order : PreferredOrder} {switch : Switch σ}

variable [Platform σ]

theorem applyRoute_idle (h : switch.route.isRouting = false ∨
    switch.route.routed = switch.selector.selected) (now : Nat) : switch.applyRoute now = switch := by
  have hSame := switch.tracker.getD_listening?
  have hOutcome : switch.route.routeTo switch.selector.selected switch.tracker.listening? now
      switch.host = ⟨.ok (), switch.route, switch.tracker.listening?, switch.host⟩ :=
    Route.routeTo_idle h _ _ _
  rw [applyRoute, routeWithin_ok (by rw [routeOnce, hOutcome]), routeOnce, hOutcome, hSame]

theorem applyRoute_of_silent (h : switch.route.isRouting = false) (now : Nat) :
    switch.applyRoute now = switch := applyRoute_idle (.inl h) now

theorem Steady.applyRoute (h : Steady order switch) (hSettled : switch.Settled)
    (hRunning : switch.phase ≠ .stopped) (now : Nat) : Consistent order (switch.applyRoute now) := by
  have hReady : switch.Poised := ⟨h.sound, hSettled, h.pending⟩
  obtain ⟨hPoised, hHeard, _⟩ := hReady.applyRoute now
  have hReroutes := reroutes_applyRoute switch now
  refine ⟨⟨hPoised.sound, hPoised.pending, ?_, ?_, ?_, ?_, ?_⟩, fun _ => hPoised.settled, hHeard⟩
  · rw [hReroutes.phase, hReroutes.route]
    exact h.activated
  · rw [hReroutes.route]
    exact h.focused
  · intro hSilent
    rw [hReroutes.isRouting] at hSilent
    rw [applyRoute_of_silent hSilent]
    exact h.quiet hSilent
  · intro hStopped
    exact absurd (hReroutes.phase.symm.trans hStopped) hRunning
  · exact hReroutes.order.trans h.order

theorem Steady.recompute (h : Steady order switch) (hRunning : switch.phase ≠ .stopped) :
    Steady order (switch.recompute []) :=
  ⟨h.sound, h.pending, h.activated, h.focused, h.quiet, fun hStopped => absurd hStopped hRunning,
    Selector.order_recompute.trans h.order⟩

theorem Steady.poised (h : Steady order switch) (hUnspoiled : switch.Unspoiled) :
    (switch.recompute []).Poised :=
  ⟨h.sound, settled_recompute h.sound hUnspoiled (by simp), h.pending⟩

theorem Consistent.poised_applyCallback (h : Consistent order switch) (callback : Callback) :
    ((switch.applyCallback callback).2.recompute []).Poised :=
  (h.toSteady.applyCallback callback).poised
    (h.unspoiled.applyCallback h.sound h.anchored callback)

theorem Steady.refreshSince (h : Steady order switch) (hUnspoiled : switch.Unspoiled)
    (hRunning : switch.phase ≠ .stopped) (view : List Device × Option Device) (now : Nat) :
    Consistent order (switch.refreshSince view now) := by
  have hSettled : (switch.recompute []).Settled := (h.poised hUnspoiled).settled
  exact ((h.recompute hRunning).applyRoute hSettled hRunning now).announce view

theorem Steady.refresh (h : Steady order switch) (hUnspoiled : switch.Unspoiled)
    (hRunning : switch.phase ≠ .stopped) (now : Nat) : Consistent order (switch.refresh now) :=
  h.refreshSince hUnspoiled hRunning switch.view now

theorem Consistent.handle (h : Consistent order switch) (callback : Callback) (now : Nat) :
    Consistent order (switch.handle callback now) := by
  cases hChanged : (switch.applyCallback callback).1 with
  | false =>
    obtain ⟨lines, hSame⟩ := applyCallback_unchanged hChanged
    rw [handle_unchanged hChanged, hSame]
    exact h.congr rfl rfl rfl rfl rfl
  | true =>
    rw [handle_changed hChanged]
    refine (h.toSteady.applyCallback callback).refresh
      (h.unspoiled.applyCallback h.sound h.anchored callback) ?_ now
    rw [phase_applyCallback]
    exact running_of_changed hChanged

theorem Consistent.next (h : Consistent order switch) (now : Nat) :
    Consistent order ((switch.next? now).getD switch) := by
  rw [next?]
  split
  · exact h
  · rename_i callback rest hQueue
    have hTaken : Consistent order (switch.requeue rest) := h.requeue rest
    exact hTaken.handle callback now

/-- A request that timed out is always a request for a known headset. -/
theorem checkTimeout_cases {tracker : Tracker} (hSound : tracker.Sound) (now : Nat)
    (host : Host σ) :
    tracker.checkTimeout now host = (none, tracker, host) ∨
      ∃ headset since late, tracker.link = .activating headset.address since ∧
        tracker.find? headset.address = some headset ∧
        tracker.checkTimeout now host = (some ⟨.activationError, .bluetoothHeadset headset⟩,
          tracker.markFailed headset.address, late) := by
  rw [Tracker.checkTimeout]
  split
  · rename_i address since hPending
    split
    · exact .inl rfl
    · have hKnown := Tracker.isSome_find?_iff.mpr (hSound.linked address (by rw [hPending]; rfl))
      obtain ⟨headset, hFound⟩ := Option.isSome_iff_exists.mp hKnown
      obtain ⟨_, rfl⟩ := Tracker.mem_of_find? hFound
      exact .inr ⟨headset, since, _, hPending, hFound, by rw [hFound]; rfl⟩
  · exact .inl rfl

/-- Nothing happens before a request has waited until its deadline. -/
theorem poll_of_deadline {now : Nat} (hDeadline : switch.tracker.deadline?.all (now < ·) = true) :
    switch.poll now = switch := by
  have hWaits : switch.tracker.checkTimeout now switch.host = (none, switch.tracker, switch.host) := by
    rw [Tracker.checkTimeout]
    split
    · rename_i address since hLink
      have hEarly : now < since + switch.tracker.timeout := by
        simpa [Tracker.deadline?, hLink] using hDeadline
      rw [if_pos hEarly]
    · rfl
  rw [poll, hWaits]
  split <;> rfl

theorem poll_late {now : Nat} {event : HeadsetEvent} {tracker : Tracker} {host : Host σ}
    (hListening : switch.tracker.listening = true)
    (hLate : switch.tracker.checkTimeout now switch.host = (some event, tracker, host)) :
    switch.poll now =
      ((({ switch with tracker, host } : Switch σ).notifyHeadset event).yieldFailed event).refresh
        now := by
  rw [poll, hListening, hLate]
  rfl

/-- A look at the deadline leaves everything as it is, or a headset failed and is passed over. -/
theorem Consistent.poll_cases (h : Consistent order switch) (now : Nat) :
    switch.poll now = switch ∨ ∃ (yielded : Switch σ) (address : String) (since : Nat),
      switch.tracker.link = .activating address since ∧ address ∈ yielded.tracker.failed ∧
      yielded.route = switch.route ∧ switch.Reroutes yielded ∧ Steady order yielded ∧
      yielded.Unspoiled ∧ yielded.phase ≠ .stopped ∧ switch.poll now = yielded.refresh now := by
  cases hListening : switch.tracker.listening with
  | false => exact .inl (by simp [Switch.poll, hListening])
  | true =>
    have hRunning : switch.phase ≠ .stopped := by
      intro hStopped
      simp [(h.stopped hStopped).1] at hListening
    have hSteps := Tracker.checkTimeout_steps switch.tracker now switch.host
    rcases checkTimeout_cases h.sound now switch.host with
      hQuiet | ⟨headset, since, late, hLink, hFound, hLate⟩
    · left
      rw [Switch.poll, hQuiet]
      split <;> rfl
    · rw [hLate] at hSteps
      obtain ⟨hSteady, hUnspoiled, hPhase, hFailed, hRoute⟩ := h.yield hRunning hLink hFound late
      have hReroutes : switch.Reroutes { switch with
          tracker := switch.tracker.markFailed headset.address, host := late } :=
        ⟨rfl, rfl, rfl, rfl, rfl, rfl, hSteps⟩
      refine .inr ⟨_, headset.address, since, hLink, hFailed, hRoute,
        (hReroutes.trans (reroutes_notifyHeadset _ _)).trans (reroutes_yieldFailed _ _), hSteady,
        hUnspoiled, ?_, poll_late hListening hLate⟩
      rwa [hPhase]

theorem Consistent.poll (h : Consistent order switch) (now : Nat) :
    Consistent order (switch.poll now) := by
  rcases h.poll_cases now with
    hSame | ⟨_, _, _, _, _, _, _, hSteady, hUnspoiled, hRunning, hRefresh⟩
  · rwa [hSame]
  · rw [hRefresh]
    exact hSteady.refresh hUnspoiled hRunning now

theorem tracker_startPermitted (tracker : Tracker) (session : Nat) (host : Host σ) :
    ∃ listening, (tracker.startPermitted session host).2.1 = { tracker with listening } ∧
      (tracker.listening = true → listening = true) := by
  rw [Tracker.startPermitted]
  split
  · rw [Tracker.start]
    split
    · exact ⟨tracker.listening, rfl, id⟩
    split
    · exact ⟨tracker.listening, rfl, id⟩
    split
    · exact ⟨tracker.listening, rfl, id⟩
    · exact ⟨true, rfl, fun _ => rfl⟩
  · exact ⟨tracker.listening, rfl, id⟩

theorem startBluetooth_eq (switch : Switch σ) : ∃ listening host,
    switch.startBluetooth = { switch with tracker := { switch.tracker with listening }, host } ∧
      (switch.tracker.listening = true → listening = true) := by
  obtain ⟨listening, hTracker, hKept⟩ :=
    tracker_startPermitted switch.tracker switch.session switch.host
  rw [startBluetooth]
  rcases hStarted : switch.tracker.startPermitted switch.session switch.host with
    ⟨result, tracker, host⟩
  rw [hStarted] at hTracker
  obtain rfl : tracker = _ := hTracker
  cases result <;> exact ⟨listening, _, rfl, hKept⟩

theorem startWired_eq (switch : Switch σ) :
    ∃ wired host, switch.startWired = { switch with wired, host } := by
  rw [startWired]
  cases switch.wired.start switch.session switch.host with
  | mk result left => cases result <;> exact ⟨_, _, rfl⟩

theorem Steady.startBluetooth (h : Steady order switch) (hRunning : switch.phase ≠ .stopped) :
    Steady order switch.startBluetooth := by
  obtain ⟨listening, host, hEq, hKept⟩ := startBluetooth_eq switch
  rw [hEq]
  refine ⟨⟨h.sound.distinct, h.sound.linked, h.sound.marked, ?_⟩, h.pending, h.activated, h.focused,
    h.quiet, fun hStopped => absurd hStopped hRunning, h.order⟩
  intro hDeaf
  refine h.sound.silent (Bool.eq_false_iff.mpr fun hListening => ?_)
  exact absurd ((hKept hListening).symm.trans hDeaf) (by decide)

theorem Consistent.startBluetooth (h : Consistent order switch)
    (hRunning : switch.phase ≠ .stopped) : Consistent order switch.startBluetooth := by
  refine ⟨h.toSteady.startBluetooth hRunning, ?_, ?_⟩
  · obtain ⟨listening, host, hEq, _⟩ := startBluetooth_eq switch
    rw [hEq]
    exact fun _ => (h.settled hRunning).congr rfl rfl rfl rfl
  · obtain ⟨listening, host, hEq, _⟩ := startBluetooth_eq switch
    rw [hEq]
    exact h.heard

theorem Steady.startWired (h : Steady order switch) : Steady order switch.startWired := by
  obtain ⟨wired, host, hEq⟩ := startWired_eq switch
  rw [hEq]
  exact h.congr rfl rfl rfl rfl

theorem register_frame (switch : Switch σ) :
    switch.startBluetooth.startWired.phase = switch.phase ∧
      switch.startBluetooth.startWired.selector = switch.selector := by
  obtain ⟨_, _, hWired⟩ := startWired_eq switch.startBluetooth
  obtain ⟨_, _, hBluetooth, _⟩ := startBluetooth_eq switch
  rw [hWired, hBluetooth]
  exact ⟨rfl, rfl⟩

/-- When a session begins, the trackers know what there is and nothing is selected. -/
theorem Consistent.begin (h : Consistent order switch) (hStopped : switch.phase = .stopped)
    (listener : Option Nat) :
    let begun := (switch.enter listener).startBluetooth.startWired.absorb
    Steady order begun ∧ begun.Unspoiled ∧ begun.phase = .started := by
  have hEntered := h.toSteady.enter hStopped listener
  obtain ⟨hStarted, _, _, hSelector, _⟩ := enter_eq switch listener
  have hRunning : (switch.enter listener).phase ≠ .stopped := by
    rw [hStarted]
    decide
  obtain ⟨hPhase, hKept⟩ := register_frame (switch.enter listener)
  have hEmpty : (switch.enter listener).startBluetooth.startWired.selector = .empty order :=
    (hKept.trans hSelector).trans (h.stopped hStopped).2
  obtain ⟨hAbsorbed, hAbsorbedPhase, hNone⟩ :=
    (hEntered.startBluetooth hRunning).startWired.absorb hEmpty
  refine ⟨hAbsorbed, unspoiled_of_free (by rw [hNone]; rfl), ?_⟩
  rw [hAbsorbedPhase, hPhase, hStarted]

theorem Consistent.start (h : Consistent order switch) (listener : Option Nat) (now : Nat) :
    Consistent order (switch.start listener now) := by
  rw [Switch.start]
  split
  · exact h.congr rfl rfl rfl rfl rfl
  rename_i hPhase
  obtain ⟨hBegun, hUnspoiled, hStarted⟩ := h.begin (by simpa using hPhase) listener
  have hRunning : (switch.enter listener).startBluetooth.startWired.absorb.phase ≠ .stopped := by
    rw [hStarted]
    decide
  have hSettled :
      ((switch.enter listener).startBluetooth.startWired.absorb.recompute []).Settled :=
    settled_recompute hBegun.sound hUnspoiled (by simp)
  exact ((hBegun.recompute hRunning).applyRoute hSettled hRunning now).congr rfl rfl rfl rfl rfl

theorem fst_silence (route : Route) (tracker : Option Tracker) (host : Host σ) :
    (route.silence tracker host).1 = if route.routed.any (·.isBluetooth) then
      tracker.map ({ · with link := .idle }) else tracker := by
  rw [Route.silence]
  split
  · rename_i hRouted
    rw [hRouted]
    exact Route.fst_closeAny tracker host
  · rename_i hRouted
    rw [hRouted]
    rfl
  · rename_i hHeadset hSpeaker
    cases hRouted : route.routed with
    | none => rfl
    | some device =>
      cases device with
      | bluetoothHeadset headset => exact absurd hRouted (hHeadset headset)
      | _ => rfl

theorem tracker_deactivate (route : Route) (tracker : Option Tracker) (host : Host σ) :
    (route.deactivate tracker host).2.1 =
      if route.activated && route.routed.any (·.isBluetooth) then
        tracker.map ({ · with link := .idle })
      else tracker := by
  have hSilence := fst_silence route tracker host
  rw [Route.deactivate]
  cases route.activated with
  | false => rfl
  | true => exact hSilence

theorem tracker_deactivateRoute (hSound : switch.tracker.Sound) :
    switch.deactivateRoute.tracker =
      if switch.route.activated && switch.route.routed.any (·.isBluetooth) then
        { switch.tracker with link := .idle }
      else switch.tracker := by
  rw [deactivateRoute]
  simp only [tracker_deactivate]
  split
  · exact hSound.getD_unlinked
  · exact switch.tracker.getD_listening?

theorem route_deactivateRoute (switch : Switch σ) :
    switch.deactivateRoute.route =
      if switch.route.activated then
        { switch.route with activated := false, focusHeld := false, saved := none, routed := none }
      else switch.route := by
  rw [deactivateRoute, Route.deactivate]
  cases switch.route.activated <;> rfl

theorem Steady.deactivateRoute (h : Steady order switch) :
    let after := switch.deactivateRoute
    after.tracker.Sound ∧ after.tracker.PendingFor none ∧
      after.tracker.listening = switch.tracker.listening ∧
      after.tracker.headsets = switch.tracker.headsets ∧
      after.tracker.failed = switch.tracker.failed ∧
      after.route.activated = false ∧ after.route.focusHeld = false ∧ after.route.routed = none := by
  simp only [tracker_deactivateRoute h.sound, route_deactivateRoute]
  cases hActivated : switch.route.activated with
  | false =>
    have hQuiet := h.quiet (by rw [Route.isRouting, hActivated]; rfl)
    have hPending := h.pending
    rw [hQuiet] at hPending
    have hFocus : switch.route.focusHeld = false := by
      refine Bool.eq_false_iff.mpr fun hFocus => ?_
      exact absurd ((h.focused hFocus).symm.trans hActivated) (by decide)
    exact ⟨h.sound, hPending, rfl, rfl, rfl, hActivated, hFocus, hQuiet⟩
  | true =>
    cases hHeadset : switch.route.routed.any (·.isBluetooth) with
    | true => exact ⟨h.sound.unlinked, Tracker.pendingFor_of_idle rfl, rfl, rfl, rfl, rfl, rfl, rfl⟩
    | false =>
      refine ⟨h.sound, ?_, rfl, rfl, rfl, rfl, rfl, rfl⟩
      intro address since hPending
      have hAddress := h.pending address since hPending
      cases hRouted : switch.route.routed with
      | none => simp [hRouted] at hAddress
      | some device =>
        rw [hRouted] at hAddress hHeadset
        cases device <;> simp [Device.address?, Device.isBluetooth] at hAddress hHeadset

theorem Consistent.disengage (h : Consistent order switch) : Consistent order switch.disengage := by
  rw [Switch.disengage]
  split
  · exact h
  rename_i hPhase
  have hRunning : switch.phase ≠ .stopped := by
    intro hStopped
    simp [hStopped] at hPhase
  obtain ⟨hSound, hPending, _, hHeadsets, hFailed, hActivated, hFocus, hRouted⟩ :=
    h.toSteady.deactivateRoute
  have hSilent : switch.deactivateRoute.route.isRouting = false := by
    rw [Route.isRouting, hActivated]
    rfl
  refine ⟨⟨hSound, hRouted ▸ hPending, ?_, ?_, fun _ => hRouted, ?_, h.order⟩, ?_, ?_⟩
  · simp [hActivated]
  · simp [hFocus]
  · rintro ⟨⟩
  · exact fun _ => (h.settled hRunning).congr rfl rfl hHeadsets hFailed
  · exact fun hRouting => absurd (hRouting.symm.trans hSilent) (by decide)

theorem tracker_stop {tracker : Tracker} (hSound : tracker.Sound) (host : Host σ) :
    (tracker.stop host).1 = .idle tracker.timeout := by
  rw [Tracker.stop]
  cases hListening : tracker.listening with
  | false => exact hSound.eq_idle hListening
  | true =>
    simp only [Bool.not_true, Bool.false_eq_true, if_false, Tracker.fst_closeLink]
    rfl

theorem Consistent.stop (h : Consistent order switch) : Consistent order switch.stop := by
  rw [Switch.stop]
  split
  · exact h
  have hWritten : Steady order (switch.write (.info "Stopping audio switch" [])) :=
    h.toSteady.congr rfl rfl rfl rfl
  obtain ⟨hSound, _, _, _, _, hActivated, hFocus, hRouted⟩ := hWritten.deactivateRoute
  have hOrder : (switch.write (.info "Stopping audio switch" [])).deactivateRoute.selector.order =
      order := h.order
  generalize (switch.write (.info "Stopping audio switch" [])).deactivateRoute = silenced at *
  have hTracker : silenced.leave.tracker = .idle silenced.tracker.timeout :=
    tracker_stop hSound silenced.host
  have hSilent : silenced.leave.route.isRouting = false := by
    rw [leave, Route.isRouting, hActivated]
    rfl
  refine ⟨⟨?_, ?_, ?_, ?_, fun _ => hRouted, ?_, hOrder⟩, ?_, ?_⟩
  · rw [hTracker]
    exact Tracker.sound_idle _
  · rw [hTracker]
    exact Tracker.pendingFor_of_idle rfl
  · simp [leave, hActivated]
  · simp [leave, hFocus]
  · rw [hTracker, leave, Selector.clear, hOrder]
    exact fun _ => ⟨rfl, rfl⟩
  · exact fun hRunning => absurd rfl hRunning
  · exact fun hRouting => absurd (hRouting.symm.trans hSilent) (by decide)

theorem prepare_eq (route : Route) (host : Host σ) :
    (route.prepare host).1.activated = true ∧ (route.prepare host).1.routed = route.routed ∧
      (route.prepare host).1.focusHeld = route.focusHeld := by
  rw [Route.prepare]
  split
  · rename_i hActivated
    exact ⟨hActivated, rfl, rfl⟩
  · split <;> exact ⟨rfl, rfl, rfl⟩

/-- An activation that fails leaves the focus where it was, not here. -/
theorem activate_eq (route : Route) (host : Host σ) :
    let taken := route.activate host
    taken.2.1.activated = true ∧ taken.2.1.routed = route.routed ∧
      (taken.1 = .ok () ∧ taken.2.1.focusHeld = true ∨
        (∃ error, taken.1 = .error error) ∧ route.focusHeld = false ∧
          taken.2.1.focusHeld = false) := by
  obtain ⟨hActivated, hRouted, hFocus⟩ := prepare_eq route host
  rw [Route.activate]
  generalize route.prepare host = ready at *
  obtain ⟨prepared, ready⟩ := ready
  simp only at hActivated hRouted hFocus ⊢
  rw [Route.takeFocus]
  split
  · rename_i hHeld
    exact ⟨hActivated, hRouted, .inl ⟨rfl, hHeld⟩⟩
  rename_i hFree
  split
  · exact ⟨hActivated, hRouted, .inl ⟨rfl, rfl⟩⟩
  · have hFree : prepared.focusHeld = false := by simpa using hFree
    exact ⟨hActivated, hRouted, .inr ⟨⟨_, rfl⟩, hFocus.symm.trans hFree, hFree⟩⟩

theorem Consistent.engage (h : Consistent order switch) (now : Nat) :
    Consistent order (switch.engage now).2 := by
  rw [Switch.engage]
  split
  · exact h
  rename_i hRunning
  have hSettled := h.settled hRunning
  have hTaken := activate_eq switch.route switch.host
  generalize switch.route.activate switch.host = taken at *
  obtain ⟨result, route, host⟩ := taken
  obtain ⟨hActivated, hRouted, hFocus⟩ := hTaken
  simp only at hActivated hRouted hFocus ⊢
  rcases hFocus with ⟨rfl, hHeld⟩ | ⟨⟨error, rfl⟩, hFree, hDeclined⟩
  · have hSteady : Steady order { switch with phase := .activated, route, host } := by
      refine ⟨h.sound, ?_, ?_, ?_, ?_, ?_, h.order⟩
      · exact hRouted.symm ▸ h.pending
      · simp [hActivated]
      · simp [hActivated]
      · simp [Route.isRouting, hActivated, hHeld]
      · rintro ⟨⟩
    have hSettled : Settled { switch with phase := .activated, route, host } :=
      hSettled.congr rfl rfl rfl rfl
    have hApplied := hSteady.applyRoute hSettled (by simp) now
    exact hApplied.announce _
  · have hQuiet : route.routed = none := by
      rw [hRouted]
      exact h.quiet (by simp [Route.isRouting, hFree])
    refine ⟨⟨h.sound, ?_, ?_, ?_, fun _ => hQuiet, ?_, h.order⟩, ?_, ?_⟩
    · exact hRouted.symm ▸ h.pending
    · simp [write, hActivated]
    · simp [write, hActivated]
    · rintro ⟨⟩
    · exact fun _ => hSettled.congr rfl rfl rfl rfl
    · simp [Heard, write, Route.isRouting, hDeclined]

theorem Consistent.choose (h : Consistent order switch) (device : Device) (now : Nat) :
    Consistent order (switch.choose device now) := by
  rw [Switch.choose]
  split
  · exact h.congr rfl rfl rfl rfl rfl
  rename_i hRunning
  split
  · exact h.congr rfl rfl rfl rfl rfl
  rename_i hMem
  have hMem : device ∈ switch.selector.available := by simpa using hMem
  exact (h.toSteady.pinTo hRunning device).refreshSince (unspoiled_pinTo h.sound hMem) hRunning _ now

theorem Consistent.unchoose (h : Consistent order switch) (now : Nat) :
    Consistent order (switch.unchoose now) := by
  rw [Switch.unchoose]
  split
  · exact h
  rename_i hPinned
  have hRunning : switch.phase ≠ .stopped := fun hStopped => hPinned (.inl hStopped)
  have hFreed : Steady order { switch with selector := switch.selector.clearPin } :=
    h.toSteady.reselect hRunning rfl rfl rfl rfl
  exact hFreed.refresh (unspoiled_of_free rfl) hRunning now

theorem Consistent.resume (h : Consistent order switch) : Consistent order switch.resume := by
  rw [Switch.resume]
  split
  · rename_i hResumable
    have hRunning : switch.phase ≠ .stopped := by
      intro hStopped
      simp [resumable, hStopped] at hResumable
    exact Consistent.startBluetooth (h.congr rfl rfl rfl rfl rfl) hRunning
  · exact h

theorem Consistent.beat (h : Consistent order switch) (beat : Beat) :
    Consistent order (switch.beat beat) := by
  cases beat with
  | callback now => exact h.next now
  | poll now => exact h.poll now
  | act operation now =>
    cases operation with
    | start listener => exact h.start listener now
    | stop => exact h.stop
    | activate => exact h.engage now
    | deactivate => exact h.disengage
    | select device => exact h.choose device now
    | clearSelection => exact h.unchoose now
    | hostResumed => exact h.resume
    | pump | poll | next => exact h
    | setFocusListener listener =>
      exact ⟨⟨h.sound, h.pending, h.activated, h.focused, h.quiet, h.stopped, h.order⟩,
        fun hRunning => (h.settled hRunning).congr rfl rfl rfl rfl, h.heard⟩
    | _ => exact h.congr rfl rfl rfl rfl rfl

theorem Consistent.move (h : Consistent order switch) (move : Move σ) :
    Consistent order (switch.move move) := by
  cases move with
  | operation operation now =>
    exact perform_induction (fun _ beat hBefore => hBefore.beat beat) h operation now
  | _ => exact h.congr rfl rfl rfl rfl rfl

theorem consistent_run (config : SwitchConfig) (platform : σ) (moves : List (Move σ)) :
    Consistent config.order ((create config platform).run moves) := by
  have hBegin := consistent_create config platform
  -- Only consistency is carried along; the initial state plays no part any more.
  generalize create config platform = switch at hBegin
  induction moves generalizing switch with
  | nil => exact hBegin
  | cons move moves ih => exact ih _ (hBegin.move move)

/-- Whatever the application asks for, whatever the platform reports, refuses or takes away and in
whatever order: the selection of a switch that runs is an available device that did not fail, and
without a pin the most preferred one. -/
theorem selection_run (config : SwitchConfig) (platform : σ) (moves : List (Move σ)) :
    let switch := (create config platform).run moves
    if switch.phase = .stopped then
      switch.selector.available = [] ∧ switch.selector.selected = none ∧
        switch.selector.pinned = false
    else
      switch.selector.available.Nodup ∧
        (switch.selector.available.Pairwise fun first second =>
          config.order.rank first.kind ≤ config.order.rank second.kind) ∧
        .speakerphone ∈ switch.selector.available ∧
        ∃ device ∈ switch.selector.available, switch.selector.selected = some device ∧
          (∀ address, device.address? = some address → address ∉ switch.tracker.failed) ∧
          (switch.selector.pinned = false → switch.selector.available.find?
            (fun other => other.address?.all (· ∉ switch.tracker.failed)) = some device) := by
  intro switch
  have h : Consistent config.order switch := consistent_run config platform moves
  split
  · rename_i hStopped
    rw [(h.stopped hStopped).2]
    exact ⟨rfl, rfl, rfl⟩
  rename_i hRunning
  have hSettled := h.settled hRunning
  obtain ⟨earpiece, hAvailable⟩ := hSettled.available
  obtain ⟨device, hMem, hSelected, hFails⟩ := hSettled.selected
  refine ⟨?_, ?_, hSettled.speakerphone_mem, device, hMem, hSelected,
    fails_eq_false_iff.mp hFails, fun hFree => ?_⟩
  · rw [hAvailable]
    exact PreferredOrder.nodup_arrange
  · rw [hAvailable, ← h.order]
    exact PreferredOrder.sorted_arrange
  · rw [← hSelected, hSettled.best hFree]
    congr 1
    funext other
    cases other <;> simp [fails, Device.address?]

end CallAudio.Switch
