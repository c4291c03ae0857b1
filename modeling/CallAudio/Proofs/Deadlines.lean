import CallAudio.Proofs.RouteCommands
import CallAudio.Proofs.Supervision

/-! # Requests that wait past their deadline

A request that is not confirmed in time is given up: its link is closed before anything else is said
to the platform, its headset is marked, reported and passed over, and another device is heard. Until
then, and while nothing is pending, a look at the deadline does nothing at all.
-/

namespace CallAudio

variable {σ : Type} [Platform σ] {order : PreferredOrder} {switch : Switch σ} {now : Nat}

theorem Issued.checkTimeout {tracker : Tracker} {address : String} {since : Nat}
    (hLink : tracker.link = .activating address since) (hLate : since + tracker.timeout ≤ now)
    (host : Host σ) : Issued [.disableLink] host (tracker.checkTimeout now host).2.2 := by
  rw [Tracker.checkTimeout, hLink]
  simp only [if_neg (Nat.not_lt.mpr hLate)]
  exact ((write host _).trans (issue _ _)).written _

namespace Switch

/-- What a look at the overdue request for `headset`'s link comes to. After it the headsets
`refused` are asked and refuse, one after the other, and then `device` is heard. -/
structure GivesUp (timeout now : Nat) (before after : Switch σ) (headset : Headset)
    (refused : List Headset) (device : Device) : Prop where
  connected : headset ∈ before.tracker.headsets
  commands : after.host.commands = before.host.commands ++
    .disableLink :: (refused.map (.enableLink ·.address) ++ device.raising)
  marked : headset.address ∈ after.tracker.failed
  notices : after.host.notices = before.host.notices ++ before.alarms (headset :: refused) ++
    before.listeners.device.toList.map (.devices · after.selector.available after.selector.selected)
  unpinned : after.selector.pinned = false
  other : device.address? ≠ some headset.address
  selected : after.selector.selected = some device
  routed : after.route.routed = some device
  available : .bluetoothHeadset headset ∈ after.selector.available
  /-- The next request has its whole time. -/
  renewed : ∀ other, device = .bluetoothHeadset other →
    after.tracker.link = .activating other.address now ∧
      after.tracker.deadline? = some (now + timeout)

omit [Platform σ] in
theorem notices_notifyDevices (switch : Switch σ) :
    switch.notifyDevices.host.notices = switch.host.notices ++ switch.listeners.device.toList.map
      (.devices · switch.selector.available switch.selector.selected) := by
  rw [notifyDevices, Listeners.devicesChanged]
  cases switch.listeners.device with
  | none => simp
  | some listener => simp [Host.notify]

omit [Platform σ] in
theorem Settled.mem_available (h : switch.Settled) {headset : Headset}
    (hMem : headset ∈ switch.tracker.headsets) :
    .bluetoothHeadset headset ∈ switch.selector.available := by
  obtain ⟨earpiece, hAvailable⟩ := h.available
  rw [hAvailable, PreferredOrder.mem_arrange]
  simp [roster, hMem]

variable {headset : Headset} {yielded : Switch σ}

structure Expires (now : Nat) (switch : Switch σ) (headset : Headset) (yielded : Switch σ) :
    Prop where
  connected : headset ∈ switch.tracker.headsets
  marked : headset.address ∈ yielded.tracker.failed
  reroutes : switch.Reroutes yielded
  selected : yielded.selector.selected = some (.bluetoothHeadset headset)
  unpinned : yielded.selector.pinned = false
  issued : Issued [.disableLink] switch.host yielded.host
  notices : yielded.host.notices = switch.host.notices ++ switch.alarms [headset]
  vacant : (yielded.recompute []).Vacant
  poll : switch.poll now = yielded.refresh now

theorem Consistent.expires (h : Consistent order switch) {address : String} {since : Nat}
    (hLink : switch.tracker.link = .activating address since)
    (hLate : since + switch.tracker.timeout ≤ now) :
    ∃ headset yielded, headset.address = address ∧ Expires now switch headset yielded := by
  obtain ⟨hRouting, headset, rfl, hRouted⟩ := h.activating hLink
  obtain ⟨hRunning, hListening, hMem, _⟩ := h.routed_known hRouted
  have hSelected := h.selected_of_routed hRouted
  have hFound := h.sound.find?_eq hMem
  have hIssued := Issued.checkTimeout hLink hLate switch.host
  have hSteps := Tracker.checkTimeout_steps switch.tracker now switch.host
  have hNotices := Tracker.notices_checkTimeout switch.tracker switch.host now
  have hTimedOut : ∃ late, switch.tracker.checkTimeout now switch.host =
      (some ⟨.activationError, .bluetoothHeadset headset⟩,
        switch.tracker.markFailed headset.address, late) := by
    rw [Tracker.checkTimeout, hLink]
    simp only [if_neg (Nat.not_lt.mpr hLate), hFound]
    exact ⟨_, rfl⟩
  obtain ⟨late, hTimedOut⟩ := hTimedOut
  rw [hTimedOut] at hIssued hSteps hNotices
  let event : HeadsetEvent := ⟨.activationError, .bluetoothHeadset headset⟩
  let timedOut : Switch σ :=
    { switch with tracker := switch.tracker.markFailed headset.address, host := late }
  let yielded := (timedOut.notifyHeadset event).yieldFailed event
  obtain ⟨hSteady, hUnspoiled, _, hFailed, hRoute⟩ := h.yield hRunning hLink hFound late
  have hReroutes : switch.Reroutes yielded := by
    have hTimed : switch.Reroutes timedOut := ⟨rfl, rfl, rfl, rfl, rfl, rfl, hSteps⟩
    exact (hTimed.trans (reroutes_notifyHeadset _ event)).trans (reroutes_yieldFailed _ event)
  have hReported : yielded.host.notices = switch.host.notices ++ switch.alarms [headset] := by
    have hLine : yielded.host.notices = (timedOut.notifyHeadset event).host.notices :=
      Host.notices_write _ _
    rw [hLine, notices_notifyFailed, hNotices]
    rfl
  have hVacant : (yielded.recompute []).Vacant := by
    have hPoised := hSteady.poised hUnspoiled
    have hStays : (yielded.recompute []).route.routed = some (.bluetoothHeadset headset) :=
      (congrArg Route.routed hRoute).trans hRouted
    have hIdle : (switch.tracker.markFailed headset.address).link = .idle := by
      simp [Tracker.markFailed, hLink, Link.address?]
    refine ⟨hPoised, hReroutes.isRouting.trans hRouting, hIdle, by simp [hStays], ?_⟩
    rw [hStays]
    exact fun hAgain => (hPoised.settled.headset_mem hAgain.symm).2 hFailed
  refine ⟨headset, yielded, rfl, hMem, hFailed, hReroutes, ?_, pinned_unpin hSelected, ?_,
    hReported, hVacant, poll_late hListening hTimedOut⟩
  · exact (congrArg Prod.snd (view_unpin _ _)).trans hSelected
  · exact (hIssued.trans (timedOut.issued_notifyHeadset event)).trans (issued_yieldFailed _ event)

/-- The headset that is given up makes way for the device that is heard in the end. -/
theorem Expires.gives_up (h : Expires now switch headset yielded)
    (hAfter : (switch.poll now).Settled) :
    ∃ refused device,
      GivesUp switch.tracker.timeout now switch (switch.poll now) headset refused device := by
  let chosen := yielded.recompute []
  obtain ⟨refused, device, hFills⟩ := h.vacant.applyRoute now
  let filled := chosen.applyRoute now
  have hReroutes : switch.Reroutes filled :=
    (h.reroutes.trans (reroutes_recompute yielded [])).trans (reroutes_applyRoute _ now)
  have hMarked : headset.address ∈ filled.tracker.failed :=
    (reroutes_applyRoute chosen now).steps.headsets.2.2 _ h.marked
  have hOther : device.address? ≠ some headset.address := fun hSame =>
    fails_eq_false_iff.mp hFills.unfailed _ hSame hMarked
  have hChanged : filled.view ≠ yielded.view := by
    intro hSame
    have hSelected : some device = some (.bluetoothHeadset headset) :=
      hFills.selected.symm.trans ((congrArg Prod.snd hSame).trans h.selected)
    cases hSelected
    exact hOther rfl
  have hPoll : switch.poll now = filled.notifyDevices := by
    rw [h.poll]
    exact if_neg hChanged
  have hTimeout : filled.tracker.timeout = switch.tracker.timeout :=
    hReroutes.steps.registrations.2
  have hIssued := ((h.issued.trans (.writeAll yielded.host _)).trans hFills.issued).trans
    filled.issued_notifyDevices
  rw [hPoll] at hAfter ⊢
  refine ⟨refused, device, h.connected, ?_, hMarked, ?_,
    hFills.free (Selector.recompute_free h.unpinned), hOther, hFills.selected, hFills.routed, ?_, ?_⟩
  · rw [hIssued.commands]
    simp
  · have hQuiet : chosen.host.notices = yielded.host.notices := Host.notices_writeAll _ _
    have hAlarms : chosen.alarms refused = switch.alarms refused := by
      rw [alarms, alarms, ← h.reroutes.listeners]
      rfl
    rw [notices_notifyDevices, hFills.notices, hQuiet, h.notices, hAlarms,
      alarms_cons switch headset refused, hReroutes.listeners,
      ← List.append_assoc switch.host.notices]
    rfl
  · refine hAfter.mem_available ?_
    exact hReroutes.steps.headsets.2.1 ▸ h.connected
  · rintro other rfl
    have hLink : filled.notifyDevices.tracker.link = .activating other.address now := hFills.link
    have hDue : filled.notifyDevices.tracker.timeout = switch.tracker.timeout := hTimeout
    exact ⟨hLink, by rw [Tracker.deadline?, hLink, hDue]⟩

theorem Consistent.gives_up (h : Consistent order switch) {address : String} {since : Nat}
    (hLink : switch.tracker.link = .activating address since)
    (hLate : since + switch.tracker.timeout ≤ now) :
    ∃ headset refused device, headset.address = address ∧
      GivesUp switch.tracker.timeout now switch (switch.poll now) headset refused device := by
  obtain ⟨headset, yielded, hAddress, hExpires⟩ := h.expires hLink hLate
  have hRunning : (switch.poll now).phase ≠ .stopped := by
    rw [(reroutes_poll switch now).phase, h.phase_of_routing (h.activating hLink).1]
    decide
  obtain ⟨refused, device, hGivesUp⟩ := hExpires.gives_up ((h.poll now).settled hRunning)
  exact ⟨headset, refused, device, hAddress, hGivesUp⟩

/-- A look at the deadline gives up the pending request if its time is over. Then the link is closed
before anything else, the headset is marked and reported, stays available and loses its pin, and
another device is heard; if that is a headset too, its request has its whole time. While nothing is
pending, and before the time is over, the look changes nothing, says nothing and tells nobody. -/
theorem deadline_exact (config : SwitchConfig) (platform : σ) (moves : List (Move σ)) (now : Nat) :
    let switch := (create config platform).run moves
    (∀ address since, switch.tracker.link = .activating address since →
      since + config.linkTimeout ≤ now →
      ∃ headset refused device, headset.address = address ∧
        GivesUp config.linkTimeout now switch (switch.poll now) headset refused device) ∧
    ((∀ address since, switch.tracker.link = .activating address since →
      now < since + config.linkTimeout) → switch.poll now = switch) := by
  intro switch
  have hConsistent : Consistent config.order switch := consistent_run config platform moves
  have hTimeout : switch.tracker.timeout = config.linkTimeout :=
    (tidy_run config platform moves).timeout
  rw [← hTimeout]
  refine ⟨fun address since hLink hLate => hConsistent.gives_up hLink hLate, fun hEarly => ?_⟩
  refine poll_of_deadline ?_
  rw [Tracker.deadline?]
  split
  · rename_i address since hLink
    simpa using hEarly address since hLink
  · rfl

/-- Neither of two headsets confirms its link. The later one, which was chosen by hand, is given up
when its time is over, and the other one is asked. -/
theorem deadline_exact_other :
    let config : SwitchConfig := ⟨.usual, 5, true, false⟩
    let handset : Handset := { Handset.fresh with
      confirmsLinks := false, connected := [⟨"Buds", "AA"⟩, ⟨"Beans", "BB"⟩] }
    let moves : List (Move Handset) := [.operation (.start none) 0, .operation .activate 1,
      .operation (.select (.bluetoothHeadset ⟨"Beans", "BB"⟩)) 2]
    let switch := (create config handset).run moves
    switch.tracker.link = .activating "BB" 1 ∧ switch.selector.pinned = true ∧
      (∃ refused, GivesUp 5 6 switch (switch.poll 6) ⟨"Beans", "BB"⟩ refused
        (.bluetoothHeadset ⟨"Buds", "AA"⟩)) ∧
      switch.poll 5 = switch := by
  intro config handset moves
  simp only
  have hLink : ((create config handset).run moves).tracker.link = .activating "BB" 1 := by decide
  obtain ⟨headset, refused, device, hAddress, hGivesUp⟩ :=
    (deadline_exact config handset moves 6).1 "BB" 1 hLink (by decide)
  have hKnown : ∀ known ∈ ((create config handset).run moves).tracker.headsets,
      known.address = "BB" → known = ⟨"Beans", "BB"⟩ := by decide
  have hHeard : (((create config handset).run moves).poll 6).route.routed =
      some (.bluetoothHeadset ⟨"Buds", "AA"⟩) := by decide
  obtain rfl := hKnown headset hGivesUp.connected hAddress
  obtain rfl := Option.some.inj (hGivesUp.routed.symm.trans hHeard)
  refine ⟨hLink, by decide, ⟨refused, hGivesUp⟩, ?_⟩
  refine (deadline_exact config handset moves 5).2 fun address since hPending => ?_
  cases hLink.symm.trans hPending
  decide

end Switch

end CallAudio
