import CallAudio.Proofs.Holdings
import CallAudio.Proofs.LinkBeats

/-! # Supervision of the routed headset

A routed headset that holds the link is supervised: its request has a deadline, and the loss of an
open link is acted on. There is one link for all headsets, and a confirmation takes it from whoever
holds it. So the routed headset is supervised unless the last confirmation heard since it was given
the link was another headset's.
-/

namespace CallAudio

def BluetoothEvent.address : BluetoothEvent → String
  | connected headset => headset.address
  | disconnected address | audioConnected address | audioDisconnected address
  | audioFailed address => address

/-- Cutting the link to one headset does not touch the link to another. -/
theorem Link.address?_cut {link : Link} {cut : Prop} [Decidable cut] {address other : String}
    (hOther : other ≠ address) (hHeld : cut → link.address? = some other) :
    (if cut then Link.idle else link).address? = some address ↔ link.address? = some address := by
  split
  · rename_i hCut
    rw [hHeld hCut, Option.some_inj]
    exact ⟨by rintro ⟨⟩, fun hSame => absurd hSame hOther⟩
  · rfl

/-- Apart from confirmations, an event about another headset does not touch the link to this one. -/
theorem Tracker.address?_apply {tracker : Tracker} {event : BluetoothEvent} {address : String}
    (hOther : event.address ≠ address) (hQuiet : ∀ other, event ≠ .audioConnected other) :
    (tracker.apply event).link.address? = some address ↔
      tracker.link.address? = some address := by
  cases event with
  | connected headset => rfl
  | audioConnected other => exact absurd rfl (hQuiet other)
  | disconnected other | audioFailed other =>
    rw [apply]
    split
    · rfl
    · exact Link.address?_cut hOther id
  | audioDisconnected other =>
    rw [apply]
    split
    · rfl
    · exact Link.address?_cut hOther fun hOpen => hOpen ▸ rfl

/-- A known headset that an event neither forgets nor marks, whose open link did not drop and whose
link was not taken, keeps its hold of the link or its lack of it. -/
theorem Tracker.address?_apply_of_kept {tracker : Tracker} {event : BluetoothEvent}
    {headset : Headset} (hKnown : (tracker.find? headset.address).isNone = false)
    (hQuiet : ∀ other, event ≠ .audioConnected other)
    (hMem : headset ∈ (tracker.apply event).headsets)
    (hFresh : headset.address ∉ (tracker.apply event).failed)
    (hOpen : event = .audioDisconnected headset.address →
      tracker.link ≠ .active headset.address) :
    (tracker.apply event).link.address? = some headset.address ↔
      tracker.link.address? = some headset.address := by
  by_cases hOther : event.address = headset.address
  swap
  · exact address?_apply hOther hQuiet
  cases event with
  | connected other => rfl
  | audioConnected other => exact absurd rfl (hQuiet other)
  | disconnected address =>
    obtain rfl : address = headset.address := hOther
    rw [apply, hKnown] at hMem
    exact absurd rfl (of_decide_eq_true (List.mem_filter.mp hMem).2)
  | audioFailed address =>
    obtain rfl : address = headset.address := hOther
    rw [apply, hKnown] at hFresh
    exact absurd (mem_markFailed_iff.mpr (.inl rfl)) hFresh
  | audioDisconnected address =>
    obtain rfl : address = headset.address := hOther
    rw [apply, hKnown]
    simp [hOpen rfl]

namespace Switch

variable {σ : Type}

def confirmed? (switch : Switch σ) (callback : Callback) : Option String :=
  match callback.report with
  | .bluetooth (.audioConnected address) =>
    if callback.session = switch.session ∧ switch.phase ≠ .stopped ∧
        switch.tracker.listening = true ∧ (switch.tracker.find? address).isSome = true then
      some address
    else none
  | _ => none

theorem confirmed?_eq_some {switch : Switch σ} {callback : Callback} {address : String} :
    switch.confirmed? callback = some address ↔
      callback = ⟨switch.session, .bluetooth (.audioConnected address)⟩ ∧
        switch.phase ≠ .stopped ∧ switch.tracker.listening = true ∧
        (switch.tracker.find? address).isSome = true := by
  obtain ⟨session, report⟩ := callback
  constructor
  · intro h
    rw [confirmed?] at h
    split at h
    · rename_i known hReport
      split at h
      · rename_i hHeard
        obtain ⟨rfl, hHeard⟩ := hHeard
        cases h
        cases hReport
        exact ⟨rfl, hHeard⟩
      · cases h
    · cases h
  · rintro ⟨hCallback, hHeard⟩
    cases hCallback
    exact if_pos ⟨rfl, hHeard⟩

def confirmedBy? (switch : Switch σ) (beat : Beat) : Option String :=
  match beat, switch.host.queue with
  | .callback _, callback :: _ => switch.confirmed? callback
  | _, _ => none

instance (before after : Switch σ) : Decidable (before.Idles after) :=
  inferInstanceAs (Decidable (_ ∧ _))

/-- The link to `address` is open, or it is pending and has its deadline. -/
def Supervises (timeout : Nat) (switch : Switch σ) (address : String) : Prop :=
  switch.tracker.link = .active address ∨ ∃ since,
    switch.tracker.link = .activating address since ∧
      switch.tracker.deadline? = some (since + timeout)

/-- A routed headset holds the link unless another one was confirmed last. -/
def Attends (confirmed : Option String) (switch : Switch σ) : Prop :=
  ∀ headset, switch.route.routed = some (.bluetoothHeadset headset) →
    (switch.tracker.link.address? = some headset.address ↔
      confirmed = none ∨ confirmed = some headset.address)

variable [Platform σ]

/-- The last confirmation heard, while routing does not move and says nothing about links. -/
def confirmedAfter (switch : Switch σ) (beat : Beat) (confirmed : Option String) :
    Option String :=
  if switch.Idles (switch.beat beat) then (switch.confirmedBy? beat).or confirmed else none

variable {order : PreferredOrder} {config : SwitchConfig} {switch : Switch σ} {headset : Headset}
  {now : Nat}

omit [Platform σ] in
theorem link_of_confirmed {callback : Callback} {address : String}
    (hConfirmed : switch.confirmed? callback = some address) :
    (switch.applyCallback callback).2.tracker.link = .active address := by
  obtain ⟨rfl, hRunning, hListening, hKnown⟩ := confirmed?_eq_some.mp hConfirmed
  obtain ⟨known, hFound⟩ := Option.isSome_iff_exists.mp hKnown
  have hReport : switch.tracker.report? (.audioConnected address) =
      some ⟨.audioConnected, .bluetoothHeadset known⟩ := by
    rw [Tracker.report?, hFound]
    rfl
  rw [show switch.applyCallback ⟨switch.session, .bluetooth (.audioConnected address)⟩ =
    switch.applyBluetooth (.audioConnected address) by simp [applyCallback, hRunning]]
  rw [(applyBluetooth_eq hListening hReport).2.2.1, Tracker.apply, hFound]
  rfl

omit [Platform σ] in
theorem Consistent.routed_known (h : Consistent order switch)
    (hRouted : switch.route.routed = some (.bluetoothHeadset headset)) :
    switch.phase ≠ .stopped ∧ switch.tracker.listening = true ∧
      headset ∈ switch.tracker.headsets ∧ headset.address ∉ switch.tracker.failed := by
  have hRunning : switch.phase ≠ .stopped := by
    rw [h.phase_of_routed hRouted]
    decide
  obtain ⟨hMem, hFresh⟩ := (h.settled hRunning).headset_mem (h.selected_of_routed hRouted)
  refine ⟨hRunning, ?_, hMem, hFresh⟩
  by_contra hDeaf
  rw [h.sound.silent (by simpa using hDeaf)] at hMem
  cases hMem

omit [Platform σ] in
theorem Tidy.supervises_iff (h : Tidy config switch) (address : String) :
    switch.Supervises config.linkTimeout address ↔
      switch.tracker.link.address? = some address := by
  constructor
  · rintro (hActive | ⟨since, hPending, _⟩)
    · rw [hActive]
      rfl
    · rw [hPending]
      rfl
  · intro hLink
    cases hHeld : switch.tracker.link with
    | idle =>
      rw [hHeld] at hLink
      cases hLink
    | activating other since =>
      rw [hHeld] at hLink
      obtain rfl : other = address := Option.some.inj hLink
      refine .inr ⟨since, hHeld, ?_⟩
      rw [Tracker.deadline?, hHeld, h.timeout]
    | active other =>
      rw [hHeld] at hLink
      obtain rfl : other = address := Option.some.inj hLink
      exact .inl hHeld

/-- When the open link of the routed headset drops, the headset is given its link anew, or it gives
way. -/
theorem Consistent.not_idles_dropped (h : Consistent order switch)
    (hRouted : switch.route.routed = some (.bluetoothHeadset headset))
    (hActive : switch.tracker.link = .active headset.address) (now : Nat) :
    ¬ switch.Idles (switch.handle
      ⟨switch.session, .bluetooth (.audioDisconnected headset.address)⟩ now) := by
  obtain ⟨hRunning, hListening, hMem, _⟩ := h.routed_known hRouted
  have hReport : switch.tracker.report? (.audioDisconnected headset.address) =
      some ⟨.audioDisconnected, .bluetoothHeadset headset⟩ := by
    rw [Tracker.report?, h.sound.find?_eq hMem]
    rfl
  have hApplied : switch.applyCallback
      ⟨switch.session, .bluetooth (.audioDisconnected headset.address)⟩ =
        switch.applyBluetooth (.audioDisconnected headset.address) := by
    simp [applyCallback, hRunning]
  have hChanged : (switch.applyCallback
      ⟨switch.session, .bluetooth (.audioDisconnected headset.address)⟩).1 = true := by
    rw [hApplied, applyBluetooth, hListening, hReport]
    rfl
  have hSteady := h.toSteady.applyCallback
    ⟨switch.session, .bluetooth (.audioDisconnected headset.address)⟩
  have hUnspoiled := h.unspoiled.applyCallback h.sound h.anchored
    ⟨switch.session, .bluetooth (.audioDisconnected headset.address)⟩
  have hHeeds := (heeds_applyCallback switch
    ⟨switch.session, .bluetooth (.audioDisconnected headset.address)⟩).1
  have hDropped : (switch.applyBluetooth (.audioDisconnected headset.address)).2.tracker.link =
      .idle ∧ (switch.applyBluetooth (.audioDisconnected headset.address)).2.route.routed =
        none := by
    have hUnknown : (switch.tracker.find? headset.address).isNone = false := by
      rw [h.sound.find?_eq hMem]
      rfl
    simp [applyBluetooth, hListening, hReport, Tracker.apply, hUnknown, hActive, yieldFailed,
      reopenDropped, notifyHeadset, write, Route.release, hRouted]
  rw [handle_changed hChanged, refresh]
  rw [hApplied] at hSteady hUnspoiled hHeeds ⊢
  rintro ⟨hSilent, hKept⟩
  have hSteps := (reroutes_refreshSince (switch.applyBluetooth
    (.audioDisconnected headset.address)).2 (switch.applyBluetooth
      (.audioDisconnected headset.address)).2.view now).steps
  have hLink := hSteps.link_of_silent (hSilent.trans hHeeds.symm)
  rcases hSteady.refreshSince_linked hUnspoiled (switch.applyBluetooth
    (.audioDisconnected headset.address)).2.view now with hLinked | ⟨_, hSame⟩
  · have hHolds := hLinked headset (hKept.trans hRouted)
    rw [hLink, hDropped.1] at hHolds
    cases hHolds
  · rw [hKept, hRouted, hDropped.2] at hSame
    cases hSame

/-- A callback that moves nothing confirms a link, or the routed headset keeps its hold of the
link or its lack of it. -/
theorem Consistent.idle_handle (h : Consistent order switch) {callback : Callback}
    (hIdles : switch.Idles (switch.handle callback now))
    (hRouted : switch.route.routed = some (.bluetoothHeadset headset)) :
    let after := switch.handle callback now
    (switch.confirmed? callback = none ∧ (after.tracker.link.address? = some headset.address ↔
      switch.tracker.link.address? = some headset.address)) ∨
      ∃ address, switch.confirmed? callback = some address ∧
        after.tracker.link = .active address := by
  have hAfter := h.handle callback now
  have hSteps := (reroutes_handle switch callback now).steps
  have hLink : (switch.handle callback now).tracker.link =
      (switch.applyCallback callback).2.tracker.link :=
    hSteps.link_of_silent (hIdles.1.trans (heeds_applyCallback switch callback).1.symm)
  obtain ⟨_, _, hMem, hFresh⟩ := hAfter.routed_known (hIdles.2.trans hRouted)
  rw [hSteps.headsets.2.1] at hMem
  have hMarked : headset.address ∉ (switch.applyCallback callback).2.tracker.failed :=
    fun hOld => hFresh (hSteps.headsets.2.2 _ hOld)
  simp only [hLink]
  cases hConfirmed : switch.confirmed? callback with
  | some address => exact .inr ⟨address, rfl, link_of_confirmed hConfirmed⟩
  | none =>
    refine .inl ⟨rfl, ?_⟩
    rcases applyCallback_cases switch callback with
      ⟨wired, lines, hEq⟩ | ⟨event, report, rfl, hRunning, hListening, hReport, hEq⟩
    · rw [hEq]
    obtain ⟨_, _, hTracker, _⟩ := applyBluetooth_eq hListening hReport
    rw [hEq, hTracker] at hMem hMarked ⊢
    obtain ⟨_, _, hBefore, _⟩ := h.routed_known hRouted
    refine Tracker.address?_apply_of_kept ?_ ?_ hMem hMarked ?_
    · rw [h.sound.find?_eq hBefore]
      rfl
    · rintro other rfl
      obtain ⟨known, hFound, _⟩ := Option.map_eq_some_iff.mp hReport
      have hSome := confirmed?_eq_some.mpr
        ⟨rfl, hRunning, hListening, Option.isSome_of_eq_some hFound⟩
      rw [hConfirmed] at hSome
      cases hSome
    · rintro rfl hActive
      exact h.not_idles_dropped hRouted hActive now hIdles

/-- What the application asks for and a look at the deadline leave the link alone as long as they
move nothing. -/
theorem Consistent.link_of_idle_beat (h : Consistent order switch) {beat : Beat}
    (hOwn : ∀ now, beat ≠ .callback now) (hIdles : switch.Idles (switch.beat beat))
    (hRouted : switch.route.routed = some (.bluetoothHeadset headset)) :
    (switch.beat beat).tracker.link = switch.tracker.link := by
  have hActivated : (switch.beat beat).phase = .activated :=
    (h.beat beat).phase_of_routed (hIdles.2.trans hRouted)
  have hRunning : switch.phase ≠ .stopped := (h.routed_known hRouted).1
  have hSilent : ∀ middle : Switch σ, middle.tracker.link = switch.tracker.link →
      middle.host.linkCommands = switch.host.linkCommands → middle.Reroutes (switch.beat beat) →
      (switch.beat beat).tracker.link = switch.tracker.link :=
    fun middle hLink hCommands hReroutes =>
      (hReroutes.steps.link_of_silent (hIdles.1.trans hCommands.symm)).trans hLink
  cases beat with
  | callback now => exact absurd rfl (hOwn now)
  | poll now => exact hSilent switch rfl rfl (reroutes_poll switch now)
  | act operation now =>
    rw [Switch.beat] at hActivated hSilent ⊢
    cases operation with
    | start listener =>
      rw [act, Switch.start, if_pos hRunning]
      rfl
    | stop =>
      rw [act, Switch.stop, if_neg hRunning] at hActivated
      cases hActivated
    | activate =>
      have hCommands := switch.route.linkCommands_activate switch.host
      rw [act, Switch.engage, if_neg hRunning] at hSilent ⊢
      generalize switch.route.activate switch.host = taken at *
      obtain ⟨result, route, host⟩ := taken
      cases result with
      | error error => rfl
      | ok =>
        exact hSilent { switch with phase := .activated, route, host } rfl hCommands
          ((reroutes_applyRoute _ now).trans (reroutes_announce _ _))
    | deactivate =>
      rw [act, Switch.disengage] at hActivated ⊢
      split at hActivated
      · rename_i hPhase
        rw [if_pos hPhase]
      · cases hActivated
    | select device =>
      rw [act, Switch.choose, if_neg hRunning] at hSilent ⊢
      split
      · rfl
      · rename_i hMem
        rw [if_neg hMem] at hSilent
        refine hSilent (switch.pinTo device) ?_ rfl (reroutes_refreshSince _ _ now)
        rcases Tracker.forgive_eq switch.tracker device with hSame | ⟨address, hClear⟩
        · rw [pinTo, hSame]
        · rw [pinTo, hClear]
          rfl
    | clearSelection =>
      rw [act, Switch.unchoose] at hSilent ⊢
      split
      · rfl
      · rename_i hPinned
        rw [if_neg hPinned] at hSilent
        exact hSilent { switch with selector := switch.selector.clearPin } rfl rfl
          (reroutes_refreshSince _ _ now)
    | hostResumed =>
      rw [act, Switch.resume]
      split
      · obtain ⟨_, _, hEq, _⟩ := startBluetooth_eq
          (switch.write (.info "Bluetooth permission granted, starting headset tracking" []))
        rw [hEq]
        rfl
      · rfl
    | _ => rfl

theorem Consistent.poll_expired (h : Consistent order switch)
    (hRouted : switch.route.routed = some (.bluetoothHeadset headset)) {since : Nat}
    (hPending : switch.tracker.link = .activating headset.address since)
    (hLate : since + switch.tracker.timeout ≤ now) :
    headset.address ∈ (switch.poll now).tracker.failed ∧
      (switch.poll now).route.routed ≠ some (.bluetoothHeadset headset) := by
  obtain ⟨_, hListening, hMem, _⟩ := h.routed_known hRouted
  have hFailed : headset.address ∈ (switch.poll now).tracker.failed := by
    have hExpired : ∃ host : Host σ, switch.tracker.checkTimeout now switch.host =
        (some ⟨.activationError, .bluetoothHeadset headset⟩,
          switch.tracker.markFailed headset.address, host) := by
      rw [Tracker.checkTimeout, hPending]
      simp only [if_neg (Nat.not_lt.mpr hLate), h.sound.find?_eq hMem]
      exact ⟨_, rfl⟩
    obtain ⟨host, hExpired⟩ := hExpired
    rw [poll_late hListening hExpired, refresh]
    refine (((reroutes_notifyHeadset _ _).trans (reroutes_yieldFailed _ _)).trans
      (reroutes_refreshSince _ _ now)).steps.headsets.2.2 _ ?_
    exact Tracker.mem_markFailed_iff.mpr (.inl rfl)
  exact ⟨hFailed, fun hStays => ((h.poll now).routed_known hStays).2.2.2 hFailed⟩

/-- What the next callback does to the link, if it moves nothing, is what it does to the last
confirmation. -/
theorem Consistent.held_of_idle_callback (h : Consistent order switch) {confirmed : Option String}
    (hHeld : switch.tracker.link.address? = some headset.address ↔
      confirmed = none ∨ confirmed = some headset.address)
    (hIdles : switch.Idles (switch.beat (.callback now)))
    (hRouted : switch.route.routed = some (.bluetoothHeadset headset)) :
    let noted := (switch.confirmedBy? (.callback now)).or confirmed
    (switch.beat (.callback now)).tracker.link.address? = some headset.address ↔
      noted = none ∨ noted = some headset.address := by
  cases hQueue : switch.host.queue with
  | nil =>
    have hNext : switch.next? now = none := by rw [next?, hQueue]
    simpa [Switch.beat, confirmedBy?, hNext, hQueue] using hHeld
  | cons callback rest =>
    let taken : Switch σ := { switch with host := { switch.host with queue := rest } }
    have hTaken : Consistent order taken := h.congr rfl rfl rfl rfl rfl
    have hNext : switch.beat (.callback now) = taken.handle callback now := by
      rw [Switch.beat, next?, hQueue]
      rfl
    have hSame : switch.confirmedBy? (.callback now) = taken.confirmed? callback := by
      simp only [confirmedBy?, hQueue]
      rfl
    rw [hNext] at hIdles ⊢
    rw [hSame]
    rcases hTaken.idle_handle hIdles hRouted with ⟨hNone, hLink⟩ | ⟨address, hSome, hLink⟩
    · rw [hNone, hLink]
      exact hHeld
    · rw [hSome, hLink]
      simp [Link.address?]

/-- What a beat does to the link is what it does to the last confirmation. -/
theorem Consistent.attends_beat (h : Consistent order switch) {confirmed : Option String}
    (hAttends : switch.Attends confirmed) (beat : Beat) :
    (switch.beat beat).Attends (switch.confirmedAfter beat confirmed) := by
  intro headset hRouted
  rw [confirmedAfter]
  split
  · rename_i hIdles
    have hBefore := hIdles.2.symm.trans hRouted
    have hHeld := hAttends headset hBefore
    cases beat with
    | callback now => exact h.held_of_idle_callback hHeld hIdles hBefore
    | poll now =>
      rw [h.link_of_idle_beat (by simp) hIdles hBefore]
      exact hHeld
    | act operation now =>
      rw [h.link_of_idle_beat (by simp) hIdles hBefore]
      exact hHeld
  · rename_i hMoved
    rcases (h.relinks beat).routed with hLinked | hIdles
    · simp [hLinked headset hRouted]
    · exact absurd hIdles hMoved

/-- In every run the routed headset is supervised, unless the confirmation heard last since it was
given the link was another headset's. As long as it is supervised, it fails when its request times
out, and the loss of its open link moves something. -/
theorem routed_headset_supervised_iff (config : SwitchConfig) (platform : σ)
    (moves : List (Move σ)) {headset : Headset}
    (hRouted : ((create config platform).run moves).route.routed =
      some (.bluetoothHeadset headset)) :
    let last := (create config platform).run moves
    let confirmed := (create config platform).noteRun confirmedAfter none moves
    (last.Supervises config.linkTimeout headset.address ↔
      confirmed = none ∨ confirmed = some headset.address) ∧
    (∀ since now, last.tracker.link = .activating headset.address since →
      since + config.linkTimeout ≤ now →
        headset.address ∈ (last.poll now).tracker.failed ∧
          (last.poll now).route.routed ≠ some (.bluetoothHeadset headset)) ∧
    (last.tracker.link = .active headset.address → ∀ now, ¬ last.Idles (last.handle
      ⟨last.session, .bluetooth (.audioDisconnected headset.address)⟩ now)) := by
  intro last confirmed
  let kept (confirmed : Option String) (switch : Switch σ) : Prop :=
    Consistent config.order switch ∧ switch.Attends confirmed
  have hBeat : ∀ confirmed (switch : Switch σ) beat, kept confirmed switch →
      kept (switch.confirmedAfter beat confirmed) (switch.beat beat) :=
    fun _ _ beat hBefore => ⟨hBefore.1.beat beat, hBefore.1.attends_beat hBefore.2 beat⟩
  have hArrive : ∀ confirmed (switch : Switch σ) arrival, kept confirmed switch →
      (∀ operation now, arrival ≠ .operation operation now) →
        kept confirmed (switch.move arrival) := by
    intro confirmed switch arrival hBefore hOwn
    refine ⟨hBefore.1.move arrival, ?_⟩
    cases arrival with
    | operation operation now => exact absurd rfl (hOwn operation now)
    | _ => exact hBefore.2
  have hBegin : kept none (create config platform) :=
    ⟨consistent_create config platform, by rintro _ ⟨⟩⟩
  obtain ⟨hConsistent, hAttends⟩ : kept confirmed last :=
    noteRun_induction confirmedAfter hBeat hArrive hBegin moves
  have hTidy : Tidy config last := tidy_run config platform moves
  refine ⟨(hTidy.supervises_iff _).trans (hAttends headset hRouted), ?_,
    hConsistent.not_idles_dropped hRouted⟩
  intro since now hPending hLate
  exact hConsistent.poll_expired hRouted hPending (hTidy.timeout ▸ hLate)

theorem routed_headset_supervised_after_report :
    let config : SwitchConfig := ⟨.usual, usualLinkTimeout, true, false⟩
    let moves : List (Move Handset) := [.operation (.start none) 0, .operation .activate 0,
      .platform ({ · with confirmsLinks := false }),
      .callback ⟨1, .bluetooth (.connected ⟨"Car", "BB"⟩)⟩,
      .callback ⟨1, .bluetooth (.connected ⟨"Buds", "AA"⟩)⟩,
      .callback ⟨1, .bluetooth (.audioConnected "BB")⟩, .operation .pump 0,
      .callback ⟨1, .bluetooth (.audioConnected "AA")⟩, .operation .pump 0]
    ((create config Handset.fresh).run moves).route.routed =
        some (.bluetoothHeadset ⟨"Buds", "AA"⟩) ∧
      ((create config Handset.fresh).run moves).Supervises config.linkTimeout "AA" := by
  intro config moves
  have hRouted : ((create config Handset.fresh).run moves).route.routed =
      some (.bluetoothHeadset ⟨"Buds", "AA"⟩) := by decide
  exact ⟨hRouted, (routed_headset_supervised_iff config Handset.fresh moves hRouted).1.mpr
    (.inr (by decide))⟩

/-- A belated confirmation of the headset routed before takes the link: the pending request for the
routed headset is forgotten and never times out. -/
theorem routed_headset_unsupervised :
    let config : SwitchConfig := ⟨.usual, usualLinkTimeout, true, false⟩
    let switch := (create config { Handset.fresh with confirmsLinks := false }).handsetRun
      [.operation (.start none) 0, .operation .activate 0, .handset (.connect ⟨"Car", "BB"⟩),
        .operation .pump 0, .handset (.connect ⟨"Buds", "AA"⟩), .operation .pump 0,
        .handset (.reportBluetooth (.audioConnected "BB")), .operation .pump 0]
    switch.route.isRouting = true ∧
      switch.route.routed = some (.bluetoothHeadset ⟨"Buds", "AA"⟩) ∧
      switch.host.linkCommands.getLast? = some (.enableLink "AA") ∧
      switch.tracker.link = .active "BB" ∧
      (switch.poll usualLinkTimeout).route.routed = some (.bluetoothHeadset ⟨"Buds", "AA"⟩) := by
  decide

end Switch

end CallAudio
