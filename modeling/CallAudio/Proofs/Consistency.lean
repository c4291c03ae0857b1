import CallAudio.Proofs.Routing
import CallAudio.Proofs.Run

/-! # Consistency of a switch

The trackers, the selector, the route and the phase of a consistent switch agree. In a steady one
the selection may be out of date. An applied callback leaves a consistent switch steady; if it asks
for no new selection, the switch is still consistent.
-/

namespace CallAudio

namespace Tracker

/-- An event leaves the link as it is, closes it or reports that it is open. -/
theorem link_apply (tracker : Tracker) (event : BluetoothEvent) :
    (tracker.apply event).link = tracker.link ∨ (tracker.apply event).link = .idle ∨
      ∃ address, (tracker.apply event).link = .active address := by
  cases event with
  | connected headset => exact .inl rfl
  | disconnected other =>
    rw [apply]
    split
    · exact .inl rfl
    · simp only
      split
      · exact .inr (.inl rfl)
      · exact .inl rfl
  | audioConnected other =>
    rw [apply]
    split
    · exact .inl rfl
    · exact .inr (.inr ⟨other, rfl⟩)
  | audioDisconnected other =>
    rw [apply]
    split
    · exact .inl rfl
    · simp only
      split
      · exact .inr (.inl rfl)
      · exact .inl rfl
  | audioFailed other =>
    rw [apply]
    split
    · exact .inl rfl
    · simp only [markFailed]
      split
      · exact .inr (.inl rfl)
      · exact .inl rfl

theorem listening_apply (tracker : Tracker) (event : BluetoothEvent) :
    (tracker.apply event).listening = tracker.listening := by
  cases event with
  | connected headset => rfl
  | _ =>
    rw [apply]
    split <;> rfl

theorem apply_activating {tracker : Tracker} {event : BluetoothEvent} {address : String}
    {since : Nat} (h : (tracker.apply event).link = .activating address since) :
    tracker.link = .activating address since := by
  rcases link_apply tracker event with hSame | hIdle | ⟨other, hActive⟩
  · exact hSame.symm.trans h
  · cases hIdle.symm.trans h
  · cases hActive.symm.trans h

theorem report?_device {tracker : Tracker} {event : BluetoothEvent} {report : HeadsetEvent}
    (h : tracker.report? event = some report) :
    ∃ headset, report.device = .bluetoothHeadset headset := by
  cases event with
  | connected headset =>
    cases h
    exact ⟨headset, rfl⟩
  | _ =>
    obtain ⟨headset, _, rfl⟩ := Option.map_eq_some_iff.mp h
    exact ⟨headset, rfl⟩

/-- Only a failure of the link marks a headset, and it is reported as a failure. -/
theorem mem_failed_apply {tracker : Tracker} {event : BluetoothEvent} {report : HeadsetEvent}
    (hReport : tracker.report? event = some report) {address : String}
    (h : address ∈ (tracker.apply event).failed) :
    address ∈ tracker.failed ∨ ∃ headset, tracker.find? address = some headset ∧
      report = ⟨.activationError, .bluetoothHeadset headset⟩ := by
  cases event with
  | connected headset => exact .inl (mem_clearFailure_iff.mp h).1
  | disconnected other =>
    rw [apply] at h
    split at h
    · exact .inl h
    · exact .inl (mem_clearFailure_iff.mp h).1
  | audioConnected other =>
    rw [apply] at h
    split at h <;> exact .inl h
  | audioDisconnected other =>
    rw [apply] at h
    split at h <;> exact .inl h
  | audioFailed other =>
    rw [apply] at h
    split at h
    · exact .inl h
    obtain rfl | hMem := mem_markFailed_iff.mp h
    · obtain ⟨headset, hFound, rfl⟩ := Option.map_eq_some_iff.mp hReport
      exact .inr ⟨headset, hFound, rfl⟩
    · exact .inl hMem

end Tracker

namespace Switch

variable {σ : Type}

def Heard (switch : Switch σ) : Prop :=
  switch.route.isRouting = true → switch.route.routed = switch.selector.selected

/-- The parts of a switch agree, but perhaps for the selection. -/
structure Steady (order : PreferredOrder) (switch : Switch σ) : Prop where
  sound : switch.tracker.Sound
  pending : switch.tracker.PendingFor switch.route.routed
  activated : switch.route.activated = true ↔ switch.phase = .activated
  focused : switch.route.focusHeld = true → switch.route.activated = true
  quiet : switch.route.isRouting = false → switch.route.routed = none
  stopped : switch.phase = .stopped →
    switch.tracker.listening = false ∧ switch.selector = .empty order
  order : switch.selector.order = order

def Unspoiled (switch : Switch σ) : Prop :=
  switch.selector.pinned = true → ∀ device, switch.selector.selected = some device →
    switch.fails device = false

def Anchored (switch : Switch σ) : Prop :=
  switch.selector.pinned = true → ∀ headset,
    switch.selector.selected = some (.bluetoothHeadset headset) → headset ∈ switch.tracker.headsets

/-- The parts of a switch agree. -/
structure Consistent (order : PreferredOrder) (switch : Switch σ) : Prop
    extends Steady order switch where
  settled : switch.phase ≠ .stopped → switch.Settled
  heard : switch.Heard

variable {order : PreferredOrder} {switch after : Switch σ}

theorem Steady.phase_of_routing (h : Steady order switch)
    (hRouting : switch.route.isRouting = true) : switch.phase = .activated :=
  h.activated.mp (Bool.and_eq_true_iff.mp hRouting).1

theorem Steady.silent_of_phase (h : Steady order switch) (hPhase : switch.phase ≠ .activated) :
    switch.route.isRouting = false :=
  Bool.eq_false_iff.mpr fun hRouting => hPhase (h.phase_of_routing hRouting)

theorem Steady.routing_of_routed (h : Steady order switch) {device : Device}
    (hRouted : switch.route.routed = some device) : switch.route.isRouting = true := by
  by_contra hSilent
  cases hRouted.symm.trans (h.quiet (by simpa using hSilent))

theorem Steady.phase_of_routed (h : Steady order switch) {device : Device}
    (hRouted : switch.route.routed = some device) : switch.phase = .activated :=
  h.phase_of_routing (h.routing_of_routed hRouted)

/-- A request that waits for its confirmation belongs to the routed headset. -/
theorem Steady.activating (h : Steady order switch) {address : String} {since : Nat}
    (hLink : switch.tracker.link = .activating address since) :
    switch.route.isRouting = true ∧ ∃ headset, headset.address = address ∧
      switch.route.routed = some (.bluetoothHeadset headset) := by
  obtain ⟨device, hRouted, hAddress⟩ := Option.bind_eq_some_iff.mp (h.pending address since hLink)
  refine ⟨h.routing_of_routed hRouted, ?_⟩
  cases device with
  | bluetoothHeadset headset => exact ⟨headset, Option.some.inj hAddress, hRouted⟩
  | _ => cases hAddress

theorem Consistent.selected_of_routed (h : Consistent order switch) {device : Device}
    (hRouted : switch.route.routed = some device) : switch.selector.selected = some device :=
  (h.heard (h.routing_of_routed hRouted)).symm.trans hRouted

/-- The session, the listeners and the host are of no account. -/
theorem Steady.congr (h : Steady order switch) (hPhase : after.phase = switch.phase)
    (hTracker : after.tracker = switch.tracker) (hRoute : after.route = switch.route)
    (hSelector : after.selector = switch.selector) : Steady order after := by
  obtain ⟨hSound, hPending, hActivated, hFocused, hQuiet, hStopped, hOrder⟩ := h
  rw [← hTracker] at hSound
  rw [← hTracker, ← hRoute] at hPending
  rw [← hRoute, ← hPhase] at hActivated
  rw [← hRoute] at hFocused hQuiet
  rw [← hPhase, ← hTracker, ← hSelector] at hStopped
  rw [← hSelector] at hOrder
  exact ⟨hSound, hPending, hActivated, hFocused, hQuiet, hStopped, hOrder⟩

theorem Steady.reselect (h : Steady order switch) (hRunning : switch.phase ≠ .stopped)
    (hPhase : after.phase = switch.phase) (hTracker : after.tracker = switch.tracker)
    (hRoute : after.route = switch.route) (hOrder : after.selector.order = switch.selector.order) :
    Steady order after where
  sound := hTracker ▸ h.sound
  pending := by
    rw [hTracker, hRoute]
    exact h.pending
  activated := by
    rw [hRoute, hPhase]
    exact h.activated
  focused := by
    rw [hRoute]
    exact h.focused
  quiet := by
    rw [hRoute]
    exact h.quiet
  stopped hStopped := absurd (hPhase.symm.trans hStopped) hRunning
  order := hOrder.trans h.order

theorem Consistent.congr (h : Consistent order switch) (hPhase : after.phase = switch.phase)
    (hTracker : after.tracker = switch.tracker) (hWired : after.wired = switch.wired)
    (hRoute : after.route = switch.route) (hSelector : after.selector = switch.selector) :
    Consistent order after where
  toSteady := h.toSteady.congr hPhase hTracker hRoute hSelector
  settled hRunning :=
    (h.settled (hPhase ▸ hRunning)).congr hSelector hWired (by rw [hTracker]) (by rw [hTracker])
  heard := by
    have hHeard := h.heard
    rwa [Heard, ← hRoute, ← hSelector] at hHeard

theorem Consistent.requeue (h : Consistent order switch) (queue : List Callback) :
    Consistent order (switch.requeue queue) := h.congr rfl rfl rfl rfl rfl

theorem Consistent.unspoiled (h : Consistent order switch) : switch.Unspoiled := by
  intro hPinned device hSelected
  by_cases hStopped : switch.phase = .stopped
  · rw [(h.stopped hStopped).2] at hPinned
    cases hPinned
  · obtain ⟨other, _, hOther, hFails⟩ := (h.settled hStopped).selected
    obtain rfl := Option.some.inj (hSelected.symm.trans hOther)
    exact hFails

theorem Consistent.anchored (h : Consistent order switch) : switch.Anchored := by
  intro hPinned headset hSelected
  by_cases hStopped : switch.phase = .stopped
  · rw [(h.stopped hStopped).2] at hPinned
    cases hPinned
  · exact ((h.settled hStopped).headset_mem hSelected).1

theorem Consistent.announce (h : Consistent order switch) (view : List Device × Option Device) :
    Consistent order (switch.announce view) := by
  rw [Switch.announce]
  split
  · exact h
  · exact h.congr rfl rfl rfl rfl rfl

theorem consistent_create (config : SwitchConfig) (platform : σ) :
    Consistent config.order (create config platform) := by
  refine ⟨⟨Tracker.sound_idle _, Tracker.pendingFor_of_idle rfl, ?_, ?_, fun _ => rfl,
    fun _ => ⟨rfl, rfl⟩, rfl⟩, fun hRunning => absurd rfl hRunning, ?_⟩
  · simp [create, Route.idle]
  · simp [create, Route.idle]
  · simp [Heard, create, Route.idle, Route.isRouting]

theorem unspoiled_of_free (h : switch.selector.pinned = false) : switch.Unspoiled := by
  intro hPinned
  exact absurd (hPinned.symm.trans h) (by decide)

theorem Unspoiled.mono (h : switch.Unspoiled) (hSelector : after.selector = switch.selector)
    (hFailed : ∀ address ∈ after.tracker.failed, address ∈ switch.tracker.failed) :
    after.Unspoiled := by
  intro hPinned device hSelected
  rw [hSelector] at hPinned hSelected
  refine fails_eq_false_iff.mpr fun address hAddress hMem => ?_
  exact fails_eq_false_iff.mp (h hPinned device hSelected) address hAddress (hFailed address hMem)

/-- If the failed headset loses its pin, a pinned device did not fail. -/
theorem Unspoiled.yield (h : switch.Unspoiled) (hSound : switch.tracker.Sound)
    (hAnchored : switch.Anchored) {headset : Headset}
    (hSelector : after.selector = switch.selector.unpin (.bluetoothHeadset headset))
    (hFailed : ∀ address ∈ after.tracker.failed, address ∈ switch.tracker.failed ∨
      switch.tracker.find? address = some headset) : after.Unspoiled := by
  intro hPinned device hSelected
  rw [hSelector, Selector.unpin] at hPinned hSelected
  split at hPinned
  · cases hPinned
  rename_i hOther
  rw [if_neg hOther] at hSelected
  refine fails_eq_false_iff.mpr fun address hAddress hMem => ?_
  rcases hFailed address hMem with hOld | hFound
  · exact fails_eq_false_iff.mp (h hPinned device hSelected) address hAddress hOld
  · cases device with
    | bluetoothHeadset pinned =>
      cases hAddress
      rw [hSound.find?_eq (hAnchored hPinned pinned hSelected)] at hFound
      cases hFound
      exact hOther hSelected
    | _ => cases hAddress

theorem yieldFailed_eq (switch : Switch σ) (event : HeadsetEvent) :
    let after := switch.yieldFailed event
    after.phase = switch.phase ∧ after.wired = switch.wired ∧ after.tracker = switch.tracker ∧
      after.route = switch.route ∧
      after.selector = if event.change = .activationError then
        switch.selector.unpin event.device else switch.selector := by
  rw [yieldFailed]
  split <;> exact ⟨rfl, rfl, rfl, rfl, rfl⟩

/-- A route that is released was the link's, which is gone. -/
theorem reopenDropped_eq (switch : Switch σ) (event : HeadsetEvent) :
    let after := switch.reopenDropped event
    after.phase = switch.phase ∧ after.wired = switch.wired ∧ after.tracker = switch.tracker ∧
      after.selector = switch.selector ∧
      (after.route = switch.route ∨
        after.tracker.link = .idle ∧ after.route = { switch.route with routed := none }) := by
  rw [reopenDropped]
  split
  · rename_i hDropped
    obtain ⟨_, _, hIdle, hRouted⟩ := hDropped
    exact ⟨rfl, rfl, rfl, rfl, .inr ⟨hIdle, by rw [Route.release, if_pos hRouted]; rfl⟩⟩
  · exact ⟨rfl, rfl, rfl, rfl, .inl rfl⟩

theorem applyBluetooth_eq {event : BluetoothEvent} {report : HeadsetEvent}
    (hListening : switch.tracker.listening = true)
    (hReport : switch.tracker.report? event = some report) :
    let after := (switch.applyBluetooth event).2
    after.phase = switch.phase ∧ after.wired = switch.wired ∧
      after.tracker = switch.tracker.apply event ∧
      (after.route = switch.route ∨
        after.tracker.link = .idle ∧ after.route = { switch.route with routed := none }) ∧
      after.selector = if report.change = .activationError then
        switch.selector.unpin report.device else switch.selector := by
  rw [applyBluetooth, hListening, hReport]
  simp only [Bool.not_true, Bool.false_eq_true, if_false]
  generalize hTracked : ({ switch with
    tracker := switch.tracker.apply event
    host := switch.host.writeAll (switch.tracker.remarks event) } : Switch σ) = tracked
  obtain ⟨hPhase, hWired, hTracker, hRoute, hSelector⟩ :=
    yieldFailed_eq (tracked.notifyHeadset report) report
  obtain ⟨hPhase', hWired', hTracker', hSelector', hRoute'⟩ :=
    reopenDropped_eq ((tracked.notifyHeadset report).yieldFailed report) report
  rw [hPhase', hPhase, hWired', hWired, hTracker', hTracker, hSelector', hSelector]
  rw [hTracker', hTracker, hRoute] at hRoute'
  subst hTracked
  exact ⟨rfl, rfl, rfl, hRoute', rfl⟩

/-- All that a callback can do: say something about the jack or to the log, or report on a headset
that the tracker knows. -/
theorem applyCallback_cases (switch : Switch σ) (callback : Callback) :
    (∃ wired lines, (switch.applyCallback callback).2 =
      { switch with wired, host := switch.host.writeAll lines }) ∨
      ∃ event report, callback = ⟨switch.session, .bluetooth event⟩ ∧ switch.phase ≠ .stopped ∧
        switch.tracker.listening = true ∧ switch.tracker.report? event = some report ∧
        switch.applyCallback callback = switch.applyBluetooth event := by
  rw [applyCallback]
  split
  · exact .inl ⟨switch.wired, [_], rfl⟩
  rename_i hCurrent
  obtain ⟨hSession, hRunning⟩ := not_or.mp hCurrent
  obtain ⟨session, report⟩ := callback
  obtain rfl : session = switch.session := not_not.mp hSession
  cases report with
  | wired event => exact .inl ⟨_, _, rfl⟩
  | bluetooth event =>
    simp only
    cases hListening : switch.tracker.listening with
    | false => exact .inl ⟨switch.wired, [], by simp [applyBluetooth, hListening, Host.writeAll]⟩
    | true =>
      cases hReport : switch.tracker.report? event with
      | none =>
        exact .inl ⟨switch.wired, [], by
          simp [applyBluetooth, hListening, hReport, Host.writeAll]⟩
      | some report => exact .inr ⟨event, report, rfl, hRunning, rfl, hReport, rfl⟩

theorem Steady.applyBluetooth (h : Steady order switch) (event : BluetoothEvent) :
    Steady order (switch.applyBluetooth event).2 := by
  cases hListening : switch.tracker.listening with
  | false => simpa [Switch.applyBluetooth, hListening] using h
  | true =>
    cases hReport : switch.tracker.report? event with
    | none => simpa [Switch.applyBluetooth, hListening, hReport] using h
    | some report =>
      obtain ⟨hPhase, _, hTracker, hRoute, hSelector⟩ := applyBluetooth_eq hListening hReport
      have hRunning : switch.phase ≠ .stopped := by
        intro hStopped
        exact absurd (hListening.symm.trans (h.stopped hStopped).1) (by decide)
      have hFrame : ∃ routed, (switch.applyBluetooth event).2.route = { switch.route with routed } := by
        rcases hRoute with hRoute | ⟨_, hRoute⟩
        · exact ⟨switch.route.routed, hRoute⟩
        · exact ⟨none, hRoute⟩
      obtain ⟨routed, hFrame⟩ := hFrame
      refine ⟨?_, ?_, ?_, ?_, ?_, ?_, ?_⟩
      · rw [hTracker]
        exact h.sound.apply hListening event
      · intro address since hPending
        rcases hRoute with hRoute | ⟨hIdle, _⟩
        · rw [hTracker] at hPending
          rw [hRoute]
          exact h.pending address since (Tracker.apply_activating hPending)
        · rw [hIdle] at hPending
          cases hPending
      · rw [hPhase, hFrame]
        exact h.activated
      · rw [hFrame]
        exact h.focused
      · rcases hRoute with hRoute | ⟨_, hRoute⟩
        · rw [hRoute]
          exact h.quiet
        · rw [hRoute]
          exact fun _ => rfl
      · exact fun hStopped => absurd (hPhase.symm.trans hStopped) hRunning
      · rw [hSelector, ← h.order]
        split
        · exact Selector.order_unpin
        · rfl

theorem Unspoiled.applyBluetooth (h : switch.Unspoiled) (hSound : switch.tracker.Sound)
    (hAnchored : switch.Anchored) (event : BluetoothEvent) :
    (switch.applyBluetooth event).2.Unspoiled := by
  cases hListening : switch.tracker.listening with
  | false => simpa [Switch.applyBluetooth, hListening] using h
  | true =>
    cases hReport : switch.tracker.report? event with
    | none => simpa [Switch.applyBluetooth, hListening, hReport] using h
    | some report =>
      obtain ⟨_, _, hTracker, _, hSelector⟩ := applyBluetooth_eq hListening hReport
      by_cases hError : report.change = .activationError
      · obtain ⟨headset, hDevice⟩ := Tracker.report?_device hReport
        rw [if_pos hError, hDevice] at hSelector
        refine h.yield hSound hAnchored hSelector fun address hMem => ?_
        rw [hTracker] at hMem
        rcases Tracker.mem_failed_apply hReport hMem with hOld | ⟨other, hFound, rfl⟩
        · exact .inl hOld
        · cases hDevice
          exact .inr hFound
      · rw [if_neg hError] at hSelector
        refine h.mono hSelector fun address hMem => ?_
        rw [hTracker] at hMem
        rcases Tracker.mem_failed_apply hReport hMem with hOld | ⟨other, _, rfl⟩
        · exact hOld
        · exact absurd rfl hError

theorem Steady.applyCallback (h : Steady order switch) (callback : Callback) :
    Steady order (switch.applyCallback callback).2 := by
  rw [Switch.applyCallback]
  split
  · exact h.congr rfl rfl rfl rfl
  · split
    · exact h.applyBluetooth _
    · exact h.congr rfl rfl rfl rfl

/-- A callback that asks for no selection changes nothing but the log. -/
theorem applyCallback_unchanged {callback : Callback}
    (h : (switch.applyCallback callback).1 = false) :
    ∃ lines, (switch.applyCallback callback).2 =
      { switch with host := switch.host.writeAll lines } := by
  rw [applyCallback] at h ⊢
  split
  · exact ⟨[_], rfl⟩
  rename_i hCurrent
  rw [if_neg hCurrent] at h
  cases hReport : callback.report with
  | bluetooth event =>
    simp only [hReport] at h ⊢
    cases hListening : switch.tracker.listening with
    | false => exact ⟨[], by simp [applyBluetooth, hListening, Host.writeAll]⟩
    | true =>
      cases hHeard : switch.tracker.report? event with
      | none => exact ⟨[], by simp [applyBluetooth, hListening, hHeard, Host.writeAll]⟩
      | some report => simp [applyBluetooth, hListening, hHeard] at h
  | wired event =>
    simp only [hReport] at h ⊢
    have hWired : switch.wired.apply event = switch.wired := by
      have hHeadset : WiredTracker.headsetAfter event = switch.wired.headset := by
        simpa [applyWired, WiredTracker.changes] using h
      rw [WiredTracker.apply, hHeadset]
    exact ⟨switch.wired.remarks event, by rw [applyWired, hWired]⟩

theorem Unspoiled.applyCallback (h : switch.Unspoiled) (hSound : switch.tracker.Sound)
    (hAnchored : switch.Anchored) (callback : Callback) :
    (switch.applyCallback callback).2.Unspoiled := by
  rw [Switch.applyCallback]
  split
  · exact h.mono rfl fun _ hMem => hMem
  · split
    · exact h.applyBluetooth hSound hAnchored _
    · exact h.mono rfl fun _ hMem => hMem

theorem phase_applyBluetooth (switch : Switch σ) (event : BluetoothEvent) :
    (switch.applyBluetooth event).2.phase = switch.phase := by
  cases hListening : switch.tracker.listening with
  | false => simp [applyBluetooth, hListening]
  | true =>
    cases hReport : switch.tracker.report? event with
    | none => simp [applyBluetooth, hListening, hReport]
    | some report => exact (applyBluetooth_eq hListening hReport).1

theorem phase_applyCallback (switch : Switch σ) (callback : Callback) :
    (switch.applyCallback callback).2.phase = switch.phase := by
  rw [applyCallback]
  split
  · rfl
  · split
    · exact phase_applyBluetooth switch _
    · rfl

/-- A callback can only take the routed device away. -/
theorem route_applyCallback (switch : Switch σ) (callback : Callback) :
    (switch.applyCallback callback).2.route = switch.route ∨
      (switch.applyCallback callback).2.route = { switch.route with routed := none } := by
  rw [applyCallback]
  split
  · exact .inl rfl
  split
  · rename_i event _
    cases hListening : switch.tracker.listening with
    | false => exact .inl (by simp [applyBluetooth, hListening])
    | true =>
      cases hReport : switch.tracker.report? event with
      | none => exact .inl (by simp [applyBluetooth, hListening, hReport])
      | some report =>
        obtain ⟨_, _, _, hRoute, _⟩ := applyBluetooth_eq hListening hReport
        exact hRoute.imp_right And.right
  · exact .inl rfl

theorem wired_applyBluetooth (switch : Switch σ) (event : BluetoothEvent) :
    (switch.applyBluetooth event).2.wired = switch.wired := by
  cases hListening : switch.tracker.listening with
  | false => simp [applyBluetooth, hListening]
  | true =>
    cases hReport : switch.tracker.report? event with
    | none => simp [applyBluetooth, hListening, hReport]
    | some report => exact (applyBluetooth_eq hListening hReport).2.1

theorem registered_applyCallback (switch : Switch σ) (callback : Callback) :
    (switch.applyCallback callback).2.wired.registered = switch.wired.registered := by
  rw [applyCallback]
  split
  · rfl
  · split
    · rw [wired_applyBluetooth]
    · rfl

/-- No callback makes the switch listen, or stop listening. -/
theorem listening_applyCallback (switch : Switch σ) (callback : Callback) :
    (switch.applyCallback callback).2.tracker.listening = switch.tracker.listening := by
  rcases applyCallback_cases switch callback with
    ⟨wired, lines, hEq⟩ | ⟨event, report, _, _, hListening, hReport, hEq⟩
  · rw [hEq]
  · rw [hEq, (applyBluetooth_eq hListening hReport).2.2.1, Tracker.listening_apply]

theorem running_of_changed {callback : Callback}
    (h : (switch.applyCallback callback).1 = true) : switch.phase ≠ .stopped := by
  rw [applyCallback] at h
  split at h
  · cases h
  · rename_i hCurrent
    exact fun hStopped => hCurrent (.inr hStopped)

theorem selector_applyBluetooth (switch : Switch σ) (event : BluetoothEvent) :
    (switch.applyBluetooth event).2.selector = switch.selector ∨
      ∃ device, (switch.applyBluetooth event).2.selector = switch.selector.unpin device := by
  cases hListening : switch.tracker.listening with
  | false => exact .inl (by simp [applyBluetooth, hListening])
  | true =>
    cases hReport : switch.tracker.report? event with
    | none => exact .inl (by simp [applyBluetooth, hListening, hReport])
    | some report =>
      obtain ⟨_, _, _, _, hSelector⟩ := applyBluetooth_eq hListening hReport
      rw [hSelector]
      split
      · exact .inr ⟨_, rfl⟩
      · exact .inl rfl

theorem selector_applyCallback_empty (h : switch.selector = .empty order) (callback : Callback) :
    (switch.applyCallback callback).2.selector = .empty order := by
  rw [applyCallback]
  split
  · exact h
  · split
    · rename_i event _
      rcases selector_applyBluetooth switch event with hSame | ⟨device, hUnpin⟩
      · exact hSame.trans h
      · rw [hUnpin, h]
        rfl
    · exact h

/-- A headset whose pending request failed is marked, and the link is free. -/
theorem Steady.marked (h : Steady order switch) (hRunning : switch.phase ≠ .stopped)
    {address : String} {since : Nat} (hLink : switch.tracker.link = .activating address since)
    (late : Host σ) :
    Steady order { switch with tracker := switch.tracker.markFailed address, host := late } where
  sound := h.sound.markFailed (h.sound.linked address (by rw [hLink]; rfl))
  pending := Tracker.pendingFor_of_idle (by simp [Tracker.markFailed, hLink, Link.address?])
  activated := h.activated
  focused := h.focused
  quiet := h.quiet
  stopped hStopped := absurd hStopped hRunning
  order := h.order

theorem Consistent.yield (h : Consistent order switch) (hRunning : switch.phase ≠ .stopped)
    {headset : Headset} {since : Nat}
    (hLink : switch.tracker.link = .activating headset.address since)
    (hFound : switch.tracker.find? headset.address = some headset) (late : Host σ) :
    let yielded := (({ switch with
      tracker := switch.tracker.markFailed headset.address, host := late } :
        Switch σ).notifyHeadset ⟨.activationError, .bluetoothHeadset headset⟩).yieldFailed
          ⟨.activationError, .bluetoothHeadset headset⟩
    Steady order yielded ∧ yielded.Unspoiled ∧ yielded.phase = switch.phase ∧
      headset.address ∈ yielded.tracker.failed ∧ yielded.route = switch.route := by
  have hMarked := h.marked hRunning hLink late
  obtain ⟨hPhase, _, hTracker, hRoute, hSelector⟩ := yieldFailed_eq
    (({ switch with tracker := switch.tracker.markFailed headset.address, host := late } :
      Switch σ).notifyHeadset ⟨.activationError, .bluetoothHeadset headset⟩)
    ⟨.activationError, .bluetoothHeadset headset⟩
  have hFailed : ∀ address ∈ (switch.tracker.markFailed headset.address).failed,
      address ∈ switch.tracker.failed ∨ switch.tracker.find? address = some headset := by
    intro address hMem
    obtain rfl | hOld := Tracker.mem_markFailed_iff.mp hMem
    · exact .inr hFound
    · exact .inl hOld
  rw [if_pos rfl] at hSelector
  refine ⟨?_, ?_, hPhase, ?_, hRoute⟩
  · exact hMarked.reselect hRunning hPhase hTracker hRoute
      ((congrArg Selector.order hSelector).trans Selector.order_unpin)
  · exact h.unspoiled.yield h.sound h.anchored hSelector (by rwa [hTracker])
  · rw [hTracker]
    exact Tracker.mem_markFailed_iff.mpr (.inl rfl)

/-- The callbacks of registration find an empty selector, and leave it empty. -/
theorem Steady.absorb (h : Steady order switch) (hEmpty : switch.selector = .empty order) :
    Steady order switch.absorb ∧ switch.absorb.phase = switch.phase ∧
      switch.absorb.selector = .empty order := by
  have hTaken : Steady order { switch with host := { switch.host with queue := [] } } :=
    h.congr rfl rfl rfl rfl
  let kept (after : Switch σ) : Prop :=
    Steady order after ∧ after.phase = switch.phase ∧ after.selector = .empty order
  have hCallback : ∀ (after : Switch σ) callback, kept after →
      kept (after.applyCallback callback).2 := by
    rintro after callback ⟨hSteady, hPhase, hSelector⟩
    exact ⟨hSteady.applyCallback callback, (phase_applyCallback after callback).trans hPhase,
      selector_applyCallback_empty hSelector callback⟩
  exact absorb_induction hCallback ⟨hTaken, rfl, hEmpty⟩

theorem enter_eq (switch : Switch σ) (listener : Option Nat) :
    let after := switch.enter listener
    after.phase = .started ∧ after.tracker = switch.tracker ∧ after.route = switch.route ∧
      after.selector = switch.selector ∧ after.wired = switch.wired ∧
      ∃ line, after.host = switch.host.write line := by
  rw [enter]
  split <;> exact ⟨rfl, rfl, rfl, rfl, rfl, _, rfl⟩

theorem Steady.enter (h : Steady order switch) (hStopped : switch.phase = .stopped)
    (listener : Option Nat) : Steady order (switch.enter listener) := by
  obtain ⟨hPhase, hTracker, hRoute, hSelector, _⟩ := enter_eq switch listener
  have hIdle : switch.route.activated = false := by
    refine Bool.eq_false_iff.mpr fun hActivated => ?_
    exact absurd ((h.activated.mp hActivated).symm.trans hStopped) (by decide)
  refine ⟨?_, ?_, ?_, ?_, ?_, ?_, ?_⟩
  · rw [hTracker]
    exact h.sound
  · rw [hTracker, hRoute]
    exact h.pending
  · rw [hRoute, hPhase, hIdle]
    decide
  · rw [hRoute]
    exact h.focused
  · rw [hRoute]
    exact h.quiet
  · rw [hPhase]
    rintro ⟨⟩
  · rw [hSelector]
    exact h.order

theorem Steady.pinTo (h : Steady order switch) (hRunning : switch.phase ≠ .stopped)
    (device : Device) : Steady order (switch.pinTo device) where
  sound := h.sound.forgive device
  pending := by
    intro address since hPending
    refine h.pending address since ?_
    rcases Tracker.forgive_eq switch.tracker device with hSame | ⟨other, hClear⟩
    · rwa [Switch.pinTo, hSame] at hPending
    · rwa [Switch.pinTo, hClear] at hPending
  activated := h.activated
  focused := h.focused
  quiet := h.quiet
  stopped hStopped := absurd hStopped hRunning
  order := by
    rw [Switch.pinTo, Selector.pin]
    split <;> exact h.order

theorem unspoiled_pinTo (hSound : switch.tracker.Sound) {device : Device}
    (hMem : device ∈ switch.selector.available) : (switch.pinTo device).Unspoiled := by
  intro _ chosen hChosen
  rw [pinTo, Selector.pin, if_pos hMem] at hChosen
  cases hChosen
  exact fails_eq_false_iff.mpr fun address hAddress => hSound.not_mem_forgive hAddress

end Switch

end CallAudio
