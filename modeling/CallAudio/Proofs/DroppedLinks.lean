import CallAudio.Proofs.Holdings
import CallAudio.Proofs.RouteCommands

/-! # Links that drop

The report that a link closed can mean three things: the link of the routed headset dropped, an old
link closed while a new request is under way, or the link of a headset that is not routed closed.
Only the first one is acted on, with a request for the same link; the others change nothing but the
record of the link.
-/

namespace CallAudio

variable {σ : Type} [Platform σ] {order : PreferredOrder} {switch : Switch σ} {headset : Headset}
  {now : Nat}

/-- The report that a link closed changes nothing but the link. -/
theorem Tracker.apply_audioDisconnected (tracker : Tracker) (address : String) :
    ∃ link, tracker.apply (.audioDisconnected address) = { tracker with link } := by
  rw [apply]
  split
  · exact ⟨tracker.link, rfl⟩
  · exact ⟨_, rfl⟩

namespace Switch

def dropReport (switch : Switch σ) (headset : Headset) : Callback :=
  ⟨switch.session, .bluetooth (.audioDisconnected headset.address)⟩

/-- The route is left without a link by the report that the one of `headset` closed: `headset` is
routed, and neither a link nor a request is left. -/
def LosesLink (switch : Switch σ) (headset : Headset) : Prop :=
  switch.route.routed = some (.bluetoothHeadset headset) ∧
    (switch.tracker.apply (.audioDisconnected headset.address)).link = .idle

instance (switch : Switch σ) (headset : Headset) : Decidable (switch.LosesLink headset) :=
  inferInstanceAs (Decidable (_ ∧ _))

omit [Platform σ] in
theorem route_reopenDropped (switch : Switch σ) {event : HeadsetEvent}
    (hDropped : event.change = .audioDisconnected) (hListening : switch.tracker.listening = true) :
    (switch.reopenDropped event).route =
      if switch.tracker.link = .idle ∧ switch.route.routed = some event.device then
        { switch.route with routed := none }
      else switch.route := by
  rw [reopenDropped]
  by_cases hLost : switch.tracker.link = .idle ∧ switch.route.routed = some event.device
  · rw [if_pos ⟨hDropped, hListening, hLost⟩, if_pos hLost]
    simp [write, Route.release, hLost.2]
  · rw [if_neg fun hAll => hLost hAll.2.2, if_neg hLost]

omit [Platform σ] in
/-- What the report leaves behind before anything is selected anew. Only a route without a link
gives up its device. -/
theorem Consistent.apply_dropped (h : Consistent order switch) (hRunning : switch.phase ≠ .stopped)
    (hKnown : headset ∈ switch.tracker.headsets) :
    let applied := switch.applyCallback (switch.dropReport headset)
    applied.1 = true ∧
      applied.2.tracker = switch.tracker.apply (.audioDisconnected headset.address) ∧
      applied.2.wired = switch.wired ∧ applied.2.selector = switch.selector ∧
      (switch.LosesLink headset → applied.2.route = { switch.route with routed := none }) ∧
      (¬switch.LosesLink headset → applied.2.route = switch.route) := by
  intro applied
  have hListening : switch.tracker.listening = true := by
    by_contra hDeaf
    rw [h.sound.silent (by simpa using hDeaf)] at hKnown
    cases hKnown
  let event : BluetoothEvent := .audioDisconnected headset.address
  let report : HeadsetEvent := ⟨.audioDisconnected, .bluetoothHeadset headset⟩
  have hReport : switch.tracker.report? event = some report := by
    rw [Tracker.report?, h.sound.find?_eq hKnown]
    rfl
  let tracked : Switch σ := { switch with
    tracker := switch.tracker.apply event
    host := switch.host.writeAll (switch.tracker.remarks event) }
  have hApplied : applied = (true, (tracked.notifyHeadset report).reopenDropped report) := by
    simp [applied, applyCallback, dropReport, hRunning, applyBluetooth, hListening, hReport,
      yieldFailed, report, tracked, event]
  have hStill : tracked.tracker.listening = true :=
    (Tracker.listening_apply switch.tracker event).trans hListening
  obtain ⟨_, hWired, hTracker, hSelector, _⟩ :=
    reopenDropped_eq (tracked.notifyHeadset report) report
  have hDropped : report.change = .audioDisconnected := rfl
  have hRoute := route_reopenDropped (tracked.notifyHeadset report) hDropped hStill
  rw [hApplied]
  refine ⟨rfl, hTracker, hWired, hSelector, fun hLost => ?_, fun hKept => ?_⟩
  · exact hRoute.trans (if_pos hLost.symm)
  · exact hRoute.trans (if_neg fun hLost => hKept hLost.symm)

/-- The report leaves the selection settled, and nothing new to select from. -/
theorem Consistent.settled_dropped (h : Consistent order switch) (hRunning : switch.phase ≠ .stopped)
    (hKnown : headset ∈ switch.tracker.headsets) (hEarpiece : switch.KnowsEarpiece) :
    let applied := (switch.applyCallback (switch.dropReport headset)).2
    applied.Settled ∧ applied.tracker.Sound ∧ applied.KnowsEarpiece := by
  obtain ⟨_, hTracker, hWired, hSelector, _⟩ := h.apply_dropped hRunning hKnown
  obtain ⟨link, hLink⟩ := switch.tracker.apply_audioDisconnected headset.address
  have hPlatform := (switch.issued_applyCallback (switch.dropReport headset)).platform
  have hSound := (h.toSteady.applyCallback (switch.dropReport headset)).sound
  intro applied
  refine ⟨?_, hSound, ?_⟩
  · exact (h.settled hRunning).congr hSelector hWired (by rw [hTracker, hLink])
      (by rw [hTracker, hLink])
  · rw [KnowsEarpiece, hSelector, hPlatform]
    exact hEarpiece

/-- Any other report that a link closed changes nothing but the record of the link. -/
theorem Consistent.handle_kept (h : Consistent order switch) (hRunning : switch.phase ≠ .stopped)
    (hKnown : headset ∈ switch.tracker.headsets) (hEarpiece : switch.KnowsEarpiece)
    (hKept : ¬switch.LosesLink headset) (now : Nat) :
    let after := switch.handle (switch.dropReport headset) now
    Issued [] switch.host after.host ∧ after.selector = switch.selector ∧
      after.route = switch.route ∧ after.tracker.failed = switch.tracker.failed := by
  obtain ⟨hChanged, hTracker, _, hSelector, _, hRoute⟩ := h.apply_dropped hRunning hKnown
  obtain ⟨link, hLink⟩ := switch.tracker.apply_audioDisconnected headset.address
  obtain ⟨hSettled, hSound, hStill⟩ := h.settled_dropped hRunning hKnown hEarpiece
  have hApplied := switch.issued_applyCallback (switch.dropReport headset)
  replace hRoute := hRoute hKept
  rw [handle_changed hChanged]
  generalize (switch.applyCallback (switch.dropReport headset)).2 = applied at *
  have hHeard : applied.Heard := by
    rw [Heard, hRoute, hSelector]
    exact h.heard
  obtain ⟨lines, hLast⟩ := hSettled.refresh_still hSound hStill hHeard now
  rw [hLast]
  exact ⟨hApplied.trans (.writeAll _ lines), hSelector, hRoute, by rw [hTracker, hLink]⟩

/-- A route without a link is to be filled anew, and the selection is still the same. -/
theorem Consistent.vacant_dropped (h : Consistent order switch) (hRunning : switch.phase ≠ .stopped)
    (hKnown : headset ∈ switch.tracker.headsets) (hLost : switch.LosesLink headset) :
    ((switch.applyCallback (switch.dropReport headset)).2.recompute []).Vacant := by
  obtain ⟨_, hTracker, _, _, hRoute, _⟩ := h.apply_dropped hRunning hKnown
  have hPoised := h.poised_applyCallback (switch.dropReport headset)
  replace hRoute := hRoute hLost
  obtain ⟨hRouted, hIdle⟩ := hLost
  obtain ⟨device, _, hSelected, _⟩ := hPoised.settled.selected
  generalize (switch.applyCallback (switch.dropReport headset)).2 = applied at *
  have hChosen : (applied.recompute []).route = { switch.route with routed := none } := hRoute
  refine ⟨hPoised, ?_, (congrArg Tracker.link hTracker).trans hIdle, by simp [hChosen], ?_⟩
  · rw [hChosen]
    exact h.routing_of_routed hRouted
  · simp [hChosen, hSelected]

/-- The routed headset that lost its link is asked for a new one first. If it does not refuse,
nothing else happens. -/
theorem Consistent.handle_lost (h : Consistent order switch) (hRunning : switch.phase ≠ .stopped)
    (hKnown : headset ∈ switch.tracker.headsets) (hEarpiece : switch.KnowsEarpiece)
    (hLost : switch.LosesLink headset) (now : Nat) :
    let after := switch.handle (switch.dropReport headset) now
    (∃ more, after.host.commands = switch.host.commands ++ .enableLink headset.address :: more ∧
      .enableLink headset.address ∉ more) ∧
    ((Platform.linkAnswer switch.host.platform headset.address).isRefused = false →
      after.host.commands = switch.host.commands ++ [.enableLink headset.address] ∧
        after.tracker.link = .activating headset.address now ∧ after.selector = switch.selector ∧
        after.route = switch.route) := by
  have hVacant := h.vacant_dropped hRunning hKnown hLost
  obtain ⟨hChanged, _, _, hSelector, hRoute, _⟩ := h.apply_dropped hRunning hKnown
  obtain ⟨hSettled, hSound, hEarpiece⟩ := h.settled_dropped hRunning hKnown hEarpiece
  have hApplied := switch.issued_applyCallback (switch.dropReport headset)
  replace hRoute := hRoute hLost
  have hSelected := h.selected_of_routed hLost.1
  rw [handle_changed hChanged]
  generalize (switch.applyCallback (switch.dropReport headset)).2 = applied at *
  have hAgain : (applied.recompute []).selector = switch.selector :=
    (hSettled.selector_recompute hSound hEarpiece).trans hSelector
  have hChosen : Issued [] switch.host (applied.recompute []).host := hApplied.trans (.writeAll _ _)
  have hStill : (applied.recompute []).selector.selected = some (.bluetoothHeadset headset) := by
    rw [hAgain, hSelected]
  have hCommands : (applied.recompute []).host.commands = switch.host.commands := by
    rw [hChosen.commands, List.append_nil]
  have hAnnounced := fun filled : Switch σ => (filled.issued_announce applied.view).commands
  refine ⟨?_, fun hGrants => ?_⟩
  · obtain ⟨refused, device, hFills⟩ := hVacant.applyRoute now
    obtain ⟨more, hMore, hOnce⟩ := hFills.asks_first hStill
    refine ⟨more, ?_, hOnce⟩
    rw [refresh, refreshSince, hAnnounced, List.append_nil, hMore, hCommands]
  · have hAnswer : ∀ other, Device.bluetoothHeadset headset = .bluetoothHeadset other →
        (Platform.linkAnswer (applied.recompute []).host.platform other.address).isRefused =
          false := by
      rintro _ ⟨⟩
      rw [hChosen.platform]
      exact hGrants
    obtain ⟨hIssued, host, hFilled⟩ := hVacant.applyRoute_granted hStill hAnswer now
    have hSame : ((applied.recompute []).applyRoute now).view = applied.view := by
      rw [hFilled, view, view, hSelector]
      exact congrArg (fun selector : Selector => (selector.available, selector.selected)) hAgain
    have hRefresh : applied.refresh now = (applied.recompute []).applyRoute now := by
      rw [refresh, refreshSince, Switch.announce, if_pos hSame]
    have hBack : { applied.route with routed := some (.bluetoothHeadset headset) } =
        switch.route := by
      rw [hRoute, ← hLost.1]
    rw [hRefresh, hIssued.commands, hCommands, hFilled]
    exact ⟨rfl, rfl, hAgain, hBack⟩

/-- A report that the link of a connected headset closed is acted on just if it leaves the route
without a link. Then this headset is asked for a link first, and once; if it does not refuse, that
is all that is said, the request begins at this moment, and nothing of it shows. Otherwise nothing
is said, and selection, route and failures stay as they are. This holds as long as an earpiece was
neither gained nor lost since the last selection. -/
theorem dropped_link_handled (config : SwitchConfig) (platform : σ) (moves : List (Move σ))
    (headset : Headset) (rest : List Callback) (now : Nat)
    (hRunning : ((create config platform).run moves).phase ≠ .stopped)
    (hEarpiece : ((create config platform).run moves).KnowsEarpiece)
    (hKnown : headset ∈ ((create config platform).run moves).tracker.headsets)
    (hQueue : ((create config platform).run moves).host.queue =
      ((create config platform).run moves).dropReport headset :: rest) :
    let switch := (create config platform).run moves
    let after := switch.perform .next now
    (switch.LosesLink headset →
      (∃ more, after.host.commands = switch.host.commands ++ .enableLink headset.address :: more ∧
        .enableLink headset.address ∉ more) ∧
      ((Platform.linkAnswer switch.host.platform headset.address).isRefused = false →
        after.host.commands = switch.host.commands ++ [.enableLink headset.address] ∧
          after.tracker.link = .activating headset.address now ∧
          after.selector = switch.selector ∧ after.route = switch.route ∧
          after.deviceNotices = switch.deviceNotices)) ∧
    (¬switch.LosesLink headset →
      after.host.commands = switch.host.commands ∧ after.selector = switch.selector ∧
        after.route = switch.route ∧ after.tracker.failed = switch.tracker.failed) := by
  intro switch after
  let taken := switch.requeue rest
  have hTaken : Consistent config.order taken :=
    (consistent_run config platform moves).requeue rest
  have hAfter : after = taken.handle (taken.dropReport headset) now := perform_next_cons hQueue now
  have hTells : switch.Tells after := tells_next switch now
  rw [hAfter] at hTells
  refine ⟨fun hLost => ?_, fun hKept => ?_⟩
  · obtain ⟨hFirst, hGranted⟩ := hTaken.handle_lost hRunning hKnown hEarpiece hLost now
    rw [hAfter]
    refine ⟨hFirst, fun hGrants => ?_⟩
    obtain ⟨hCommands, hLink, hSelector, hRoute⟩ := hGranted hGrants
    refine ⟨hCommands, hLink, hSelector, hRoute, hTells.quiet ?_⟩
    rw [view, view, hSelector]
    rfl
  · obtain ⟨hIssued, hSelector, hRoute, hFailed⟩ :=
      hTaken.handle_kept hRunning hKnown hEarpiece hKept now
    rw [hAfter]
    exact ⟨hIssued.commands.trans (List.append_nil _), hSelector, hRoute, hFailed⟩

/-- The link of the routed headset drops, and later the link of one that is not routed. -/
theorem dropped_link_handled_twice :
    let config : SwitchConfig := ⟨.usual, usualLinkTimeout, true, false⟩
    let handset : Handset := { Handset.fresh with connected := [⟨"Beans", "BB"⟩, ⟨"Buds", "AA"⟩] }
    let begun : List (Move Handset) := [.operation (.start none) 0, .operation .activate 0,
      .operation .pump 0, .callback ⟨1, .bluetooth (.audioDisconnected "AA")⟩]
    let other : List (Move Handset) := [.operation (.start none) 0, .operation .activate 0,
      .operation .pump 0, .callback ⟨1, .bluetooth (.audioDisconnected "BB")⟩]
    let dropped := (create config handset).run begun
    let spared := (create config handset).run other
    dropped.LosesLink ⟨"Buds", "AA"⟩ ∧
      (dropped.perform .next 7).host.commands = dropped.host.commands ++ [.enableLink "AA"] ∧
      (dropped.perform .next 7).tracker.link = .activating "AA" 7 ∧
      ¬spared.LosesLink ⟨"Beans", "BB"⟩ ∧
      (spared.perform .next 7).host.commands = spared.host.commands := by
  intro config handset begun other
  simp only
  have hLost : ((create config handset).run begun).LosesLink ⟨"Buds", "AA"⟩ := by decide
  have hSpared : ¬((create config handset).run other).LosesLink ⟨"Beans", "BB"⟩ := by decide
  obtain ⟨hDropped, _⟩ := dropped_link_handled config handset begun ⟨"Buds", "AA"⟩ [] 7
    (by decide) (by decide) (by decide) (by decide)
  obtain ⟨_, hQuiet⟩ := dropped_link_handled config handset other ⟨"Beans", "BB"⟩ [] 7
    (by decide) (by decide) (by decide) (by decide)
  obtain ⟨hCommands, hLink, _⟩ := (hDropped hLost).2 (by decide)
  exact ⟨hLost, hCommands, hLink, hSpared, (hQuiet hSpared).1⟩

end Switch

end CallAudio
