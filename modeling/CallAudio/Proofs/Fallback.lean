import CallAudio.Proofs.Consistency

/-! # Falling back through the preferred order

A failed attempt to route the selected headset marks it as failed and selects anew. Since one
headset more is marked each time, there are tries enough, and the last one leaves the selected
device routed.
-/

namespace CallAudio.Switch

/-- What selecting anew and routing leave alone, and how they treat the tracker. -/
structure Reroutes {σ : Type} [Platform σ] (before after : Switch σ) : Prop where
  phase : after.phase = before.phase
  session : after.session = before.session
  wired : after.wired = before.wired
  listeners : after.listeners = before.listeners
  order : after.selector.order = before.selector.order
  route : after.route = { before.route with routed := after.route.routed }
  steps : LinkSteps (before.tracker, before.host) (after.tracker, after.host)

variable {σ : Type} [Platform σ] {before middle after switch : Switch σ} {now : Nat}

theorem Reroutes.refl (switch : Switch σ) : switch.Reroutes switch :=
  ⟨rfl, rfl, rfl, rfl, rfl, rfl, .refl⟩

theorem Reroutes.trans (h : before.Reroutes middle) (h' : middle.Reroutes after) :
    before.Reroutes after where
  phase := h'.phase.trans h.phase
  session := h'.session.trans h.session
  wired := h'.wired.trans h.wired
  listeners := h'.listeners.trans h.listeners
  order := h'.order.trans h.order
  route := by rw [h'.route, h.route]
  steps := h.steps.trans h'.steps

theorem Reroutes.isRouting (h : before.Reroutes after) :
    after.route.isRouting = before.route.isRouting := by
  rw [h.route]
  rfl

theorem reroutes_write (switch : Switch σ) (line : LogLine) :
    switch.Reroutes (switch.write line) :=
  ⟨rfl, rfl, rfl, rfl, rfl, rfl, .single (.write _ _ line)⟩

theorem reroutes_notifyHeadset (switch : Switch σ) (event : HeadsetEvent) :
    switch.Reroutes (switch.notifyHeadset event) := by
  refine ⟨rfl, rfl, rfl, rfl, rfl, rfl, ?_⟩
  rw [notifyHeadset, Listeners.headsetEvent]
  split
  · exact .tail (.single (.write _ _ _)) (.notify _ _ _)
  · exact .refl

theorem reroutes_notifyDevices (switch : Switch σ) : switch.Reroutes switch.notifyDevices := by
  refine ⟨rfl, rfl, rfl, rfl, rfl, rfl, ?_⟩
  rw [notifyDevices, Listeners.devicesChanged]
  split
  · exact .tail (.single (.write _ _ _)) (.notify _ _ _)
  · exact .single (.write _ _ _)

theorem reroutes_unpin (switch : Switch σ) (device : Device) :
    switch.Reroutes (switch.unpin device) := by
  refine ⟨rfl, rfl, rfl, rfl, ?_, rfl, .refl⟩
  exact Selector.order_unpin

theorem reroutes_recompute (switch : Switch σ) (rejected : List Device) :
    switch.Reroutes (switch.recompute rejected) :=
  ⟨rfl, rfl, rfl, rfl, Selector.order_recompute, rfl, LinkSteps.writeAll _ _ _⟩

theorem reroutes_fallBack (switch : Switch σ) (device : Device) (rejected : List Device) :
    switch.Reroutes (switch.fallBack device rejected) :=
  ((reroutes_unpin switch device).trans (reroutes_notifyHeadset _ _)).trans
    (reroutes_recompute _ rejected)

theorem reroutes_routeOnce (switch : Switch σ) (now : Nat) :
    switch.Reroutes (switch.routeOnce now).2 := by
  refine ⟨rfl, rfl, rfl, rfl, rfl, Route.route_routeTo _ _ _ _ _, ?_⟩
  have hSame := switch.tracker.getD_listening?
  have hSteps := Route.routeTo_steps switch.tracker switch.tracker.listening? switch.host
    switch.route switch.selector.selected now
  rwa [hSame] at hSteps

theorem routeWithin_ok {tries : Nat} {rejected : List Device}
    (h : (switch.routeOnce now).1 = .ok ()) :
    switch.routeWithin (tries + 1) rejected now = (switch.routeOnce now).2 := by
  rw [routeWithin]
  revert h
  cases switch.routeOnce now with
  | mk result next =>
    rintro ⟨⟩
    rfl

theorem routeWithin_error {tries : Nat} {rejected : List Device} {error : RoutingError}
    {device : Device} (h : (switch.routeOnce now).1 = .error error)
    (hSelected : switch.selector.selected = some device) :
    switch.routeWithin (tries + 1) rejected now =
      let next := (switch.routeOnce now).2.write (unroutedLine device error)
      if device ∈ rejected then next
      else (next.fallBack device (rejected ++ [device])).routeWithin tries (rejected ++ [device])
        now := by
  rw [routeWithin, hSelected]
  revert h
  cases switch.routeOnce now with
  | mk result next =>
    rintro ⟨⟩
    rfl

theorem reroutes_routeWithin (tries : Nat) (rejected : List Device) (now : Nat)
    (switch : Switch σ) : switch.Reroutes (switch.routeWithin tries rejected now) := by
  induction tries generalizing switch rejected with
  | zero => exact .refl switch
  | succ tries ih =>
    have hOnce := reroutes_routeOnce switch now
    cases hResult : (switch.routeOnce now).1 with
    | ok =>
      rw [routeWithin_ok hResult]
      exact hOnce
    | error error =>
      cases hSelected : switch.selector.selected with
      | none => simpa [routeWithin, hSelected] using hOnce
      | some device =>
        rw [routeWithin_error hResult hSelected]
        have hWritten := hOnce.trans (reroutes_write _ (unroutedLine device error))
        split
        · exact hWritten
        · exact (hWritten.trans (reroutes_fallBack _ _ _)).trans (ih _ _)

theorem reroutes_applyRoute (switch : Switch σ) (now : Nat) :
    switch.Reroutes (switch.applyRoute now) := reroutes_routeWithin _ _ _ _

theorem reroutes_announce (switch : Switch σ) (view : List Device × Option Device) :
    switch.Reroutes (switch.announce view) := by
  rw [announce]
  split
  · exact .refl switch
  · exact reroutes_notifyDevices switch

theorem reroutes_refreshSince (switch : Switch σ) (view : List Device × Option Device) (now : Nat) :
    switch.Reroutes (switch.refreshSince view now) :=
  ((reroutes_recompute switch []).trans (reroutes_applyRoute _ now)).trans (reroutes_announce _ view)

theorem handle_unchanged {callback : Callback} (h : (switch.applyCallback callback).1 = false) :
    switch.handle callback now = (switch.applyCallback callback).2 := by
  simp only [handle, h, Bool.false_eq_true, if_false]

theorem handle_changed {callback : Callback} (h : (switch.applyCallback callback).1 = true) :
    switch.handle callback now = (switch.applyCallback callback).2.refresh now := by
  simp only [handle, h, if_true]

theorem reroutes_handle (switch : Switch σ) (callback : Callback) (now : Nat) :
    (switch.applyCallback callback).2.Reroutes (switch.handle callback now) := by
  cases hChanged : (switch.applyCallback callback).1 with
  | false =>
    rw [handle_unchanged hChanged]
    exact .refl _
  | true =>
    rw [handle_changed hChanged]
    exact reroutes_refreshSince _ _ now

theorem reroutes_yieldFailed (switch : Switch σ) (event : HeadsetEvent) :
    switch.Reroutes (switch.yieldFailed event) := by
  rw [yieldFailed]
  split
  · exact (reroutes_write switch _).trans (reroutes_unpin _ event.device)
  · exact .refl switch

theorem reroutes_reopenDropped (switch : Switch σ) (event : HeadsetEvent) :
    switch.Reroutes (switch.reopenDropped event) := by
  rw [reopenDropped]
  split
  · refine ⟨rfl, rfl, rfl, rfl, rfl, ?_, .single (.write _ _ _)⟩
    simp only [write, Route.release]
    split <;> rfl
  · exact .refl switch

theorem reroutes_poll (switch : Switch σ) (now : Nat) : switch.Reroutes (switch.poll now) := by
  have hSteps := Tracker.checkTimeout_steps switch.tracker now switch.host
  rw [poll]
  split
  · exact .refl switch
  generalize switch.tracker.checkTimeout now switch.host = checked at *
  obtain ⟨event, tracker, host⟩ := checked
  have hChecked : switch.Reroutes { switch with tracker, host } :=
    ⟨rfl, rfl, rfl, rfl, rfl, rfl, hSteps⟩
  cases event with
  | none => exact hChecked
  | some event =>
    exact ((hChecked.trans (reroutes_notifyHeadset _ event)).trans
      (reroutes_yieldFailed _ event)).trans (reroutes_refreshSince _ _ now)

/-- What routing starts from: nothing but the routed device may still be out of date. -/
structure Poised (switch : Switch σ) : Prop where
  sound : switch.tracker.Sound
  settled : switch.Settled
  pending : switch.tracker.PendingFor switch.route.routed

def Linked (switch : Switch σ) : Prop :=
  ∀ headset, switch.route.routed = some (.bluetoothHeadset headset) →
    switch.tracker.link.address? = some headset.address

theorem Poised.routeOnce_ok (h : switch.Poised) (hOk : (switch.routeOnce now).1 = .ok ()) :
    let next := (switch.routeOnce now).2
    next.Poised ∧ next.Heard ∧ (next = switch ∨ next.Linked) := by
  have hSame := switch.tracker.getD_listening?
  have hReroutes := reroutes_routeOnce switch now
  by_cases hIdle : switch.route.isRouting = false ∨ switch.route.routed = switch.selector.selected
  · have hNext : (switch.routeOnce now).2 = switch := by
      rw [routeOnce, Route.routeTo_idle hIdle, hSame]
    rw [hNext]
    refine ⟨h, fun hRouting => ?_, .inl rfl⟩
    obtain hNot | hEq := hIdle
    · exact absurd (hRouting.symm.trans hNot) (by decide)
    · exact hEq
  · obtain ⟨hRouting, hOther⟩ := not_or.mp hIdle
    obtain ⟨hRoute, hFailed, hPending, hLink⟩ :=
      Route.routeTo_ok h.sound h.pending (by simpa using hRouting) hOther hOk
    have hRouted : (switch.routeOnce now).2.route.routed = switch.selector.selected :=
      congrArg Route.routed hRoute
    refine ⟨⟨hReroutes.steps.sound h.sound, ?_, ?_⟩, fun _ => hRouted, .inr ?_⟩
    · exact h.settled.congr rfl rfl hReroutes.steps.headsets.2.1 hFailed
    · rw [hRouted]
      exact hPending
    · intro headset hHeadset
      exact hLink headset (hRouted.symm.trans hHeadset)

theorem Poised.failed_routeOnce (h : switch.Poised) (hOk : (switch.routeOnce now).1 = .ok ()) :
    (switch.routeOnce now).2.tracker.failed = switch.tracker.failed := by
  by_cases hIdle : switch.route.isRouting = false ∨ switch.route.routed = switch.selector.selected
  · rw [routeOnce, Route.routeTo_idle hIdle]
    exact congrArg Tracker.failed switch.tracker.getD_listening?
  · obtain ⟨hRouting, hOther⟩ := not_or.mp hIdle
    exact (Route.routeTo_ok h.sound h.pending (by simpa using hRouting) hOther hOk).2.1

omit [Platform σ] in
theorem Poised.selected_known (h : switch.Poised) {headset : Headset}
    (hSelected : switch.selector.selected = some (.bluetoothHeadset headset)) :
    switch.tracker.listening = true ∧ (switch.tracker.find? headset.address).isSome := by
  obtain ⟨hMem, _⟩ := h.settled.headset_mem hSelected
  refine ⟨?_, Tracker.isSome_find?_iff.mpr (Tracker.mem_addresses hMem)⟩
  by_contra hDeaf
  rw [h.sound.silent (by simpa using hDeaf)] at hMem
  cases hMem

/-- After a failed attempt routing starts again, with one headset less to try. -/
theorem Poised.routeOnce_error (h : switch.Poised) {error : RoutingError}
    (hError : (switch.routeOnce now).1 = .error error) {rejected : List Device}
    (hRejected : ∀ device ∈ rejected, switch.fails device = true) :
    ∃ device, switch.selector.selected = some device ∧ device ∉ rejected ∧
      let next := ((switch.routeOnce now).2.write (unroutedLine device error)).fallBack device
        (rejected ++ [device])
      next.Poised ∧ next.route.routed = none ∧ next.unfailed.length < switch.unfailed.length ∧
        ∀ other ∈ rejected ++ [device], next.fails other = true := by
  obtain ⟨headset, hSelected, hRoute, hLink, hFailed⟩ :=
    Route.routeTo_error (fun _ => h.selected_known) hError
  obtain ⟨hMem, hFresh⟩ := h.settled.headset_mem hSelected
  have hSteps := (reroutes_routeOnce switch now).steps
  have hFails : ∀ other ∈ rejected ++ [.bluetoothHeadset headset],
      (switch.routeOnce now).2.fails other = true := by
    intro other hOther
    rcases List.mem_append.mp hOther with hOld | hNew
    · exact fails_mono hSteps.headsets.2.2 (hRejected other hOld)
    · rw [List.mem_singleton.mp hNew]
      refine fails_of_mem ?_
      exact hFailed ▸ Tracker.mem_markFailed_iff.mpr (.inl rfl)
  refine ⟨_, hSelected, ?_, ⟨hSteps.sound h.sound, ?_, ?_⟩, ?_, ?_, hFails⟩
  · intro hOld
    have hFailing := hRejected _ hOld
    rw [fails_eq_false_iff.mpr (by rintro _ ⟨⟩; exact hFresh)] at hFailing
    cases hFailing
  · refine settled_recompute (hSteps.sound h.sound) ?_ hFails
    intro hPinned
    have hFree : ((switch.routeOnce now).2.unpin (.bluetoothHeadset headset)).selector.pinned =
        false := pinned_unpin hSelected
    exact absurd (hPinned.symm.trans hFree) (by decide)
  · exact Tracker.pendingFor_of_idle hLink
  · exact congrArg Route.routed hRoute
  · exact unfailed_lt (mem_unfailed.mpr ⟨hMem, hFresh⟩) hSteps.headsets.2.1 hFailed

theorem Poised.routeWithin {tries : Nat} (h : switch.Poised)
    (hTries : switch.unfailed.length < tries) {rejected : List Device}
    (hRejected : ∀ device ∈ rejected, switch.fails device = true) :
    let last := switch.routeWithin tries rejected now
    last.Poised ∧ last.Heard ∧ (last = switch ∨ last.Linked) := by
  -- Every failed attempt leaves one headset less that did not fail, so the tries do not run out.
  induction tries generalizing switch rejected with
  | zero => exact absurd hTries (Nat.not_lt_zero _)
  | succ tries ih =>
    cases hResult : (switch.routeOnce now).1 with
    | ok =>
      rw [routeWithin_ok hResult]
      exact h.routeOnce_ok hResult
    | error error =>
      obtain ⟨device, hSelected, hFresh, hNext, hSilent, hFewer, hFails⟩ :=
        h.routeOnce_error hResult hRejected
      rw [routeWithin_error hResult hSelected]
      simp only [if_neg hFresh]
      obtain ⟨hLast, hHeard, hMoved⟩ := ih hNext (by omega) hFails
      refine ⟨hLast, hHeard, .inr ?_⟩
      rcases hMoved with hSame | hLinked
      · rw [hSame]
        intro headset hHeadset
        rw [hSilent] at hHeadset
        cases hHeadset
      · exact hLinked

theorem Poised.applyRoute (h : switch.Poised) (now : Nat) :
    let last := switch.applyRoute now
    last.Poised ∧ last.Heard ∧ (last = switch ∨ last.Linked) := by
  refine h.routeWithin ?_ (by simp)
  exact Nat.lt_succ_of_le (List.length_filter_le _ _)

end CallAudio.Switch
