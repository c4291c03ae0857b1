import CallAudio.Proofs.Dealings
import CallAudio.Proofs.Pins

/-! # The law of pins

In a step that leaves it to the devices where the pin is, the pin stays with its device as long as the
device is there. The pin of a headset that goes away passes to the headset that connected last among
those that did not fail, and any other pin is dropped with its device. A headset whose activation
fails while it holds the pin loses it.
-/

namespace CallAudio.Switch

variable {σ : Type} {order : PreferredOrder} {before middle after switch : Switch σ}
  {device : Device} {setback : Setback} {setbacks : List Setback} {now : Nat}

def heir? (switch : Switch σ) : Option Device :=
  switch.selector.available.find? fun device => device.isBluetooth && !switch.fails device

/-- What a step that reported `setbacks` has made of a pin on `device`. -/
structure PinLaw (device : Device) (setbacks : List Setback) (after : Switch σ) : Prop where
  lost : ∀ setback ∈ setbacks, setback.hitsPin = true →
    after.selector.pinned = false ∧ after.selector.selected ≠ some setback.device
  kept : (∀ setback ∈ setbacks, setback.hitsPin = false) → device ∈ after.selector.available →
    after.selector.pinned = true ∧ after.selector.selected = some device
  passed : (∀ setback ∈ setbacks, setback.hitsPin = false) → device ∉ after.selector.available →
    device.isBluetooth = true → ∀ heir, after.heir? = some heir →
      after.selector.pinned = true ∧ after.selector.selected = some heir ∧
        ∃ headset, heir = .bluetoothHeadset headset ∧
          after.tracker.headsets.find? (·.address ∉ after.tracker.failed) = some headset
  dropped : (∀ setback ∈ setbacks, setback.hitsPin = false) → device ∉ after.selector.available →
    (device.isBluetooth = true → after.heir? = none) → after.selector.pinned = false

/-- A setback of a headset that does not hold the pin is of no account. -/
theorem PinLaw.cons (h : after.PinLaw device setbacks) (hMiss : setback.hitsPin = false) :
    after.PinLaw device (setback :: setbacks) where
  lost other hMem hHits := by
    rcases List.mem_cons.mp hMem with rfl | hMem
    · cases hMiss.symm.trans hHits
    · exact h.lost other hMem hHits
  kept hNone := h.kept (List.forall_mem_cons.mp hNone).2
  passed hNone := h.passed (List.forall_mem_cons.mp hNone).2
  dropped hNone := h.dropped (List.forall_mem_cons.mp hNone).2

theorem heir?_congr (hSelector : after.selector = before.selector)
    (hFailed : after.tracker.failed = before.tracker.failed) : after.heir? = before.heir? := by
  have hFails : after.fails = before.fails := by
    funext device
    rw [fails, fails, hFailed]
  rw [heir?, heir?, hSelector, hFails]

/-- Marks only grow, so where there was no headset to choose there is none later. -/
theorem heir?_none_mono (hBefore : before.Settled) (hAfter : after.Settled)
    (hHeadsets : after.tracker.headsets = before.tracker.headsets)
    (hFailed : ∀ address ∈ before.tracker.failed, address ∈ after.tracker.failed)
    (hNone : before.heir? = none) : after.heir? = none := by
  rw [heir?, hBefore.find?_headset, Option.map_eq_none_iff, List.find?_eq_none] at hNone
  rw [heir?, hAfter.find?_headset, Option.map_eq_none_iff, List.find?_eq_none, hHeadsets]
  intro headset hMem
  have hMarked := hNone headset hMem
  simp only [decide_eq_true_eq, not_not] at hMarked ⊢
  exact hFailed _ hMarked

theorem Bears.lost (h : before.Bears after setbacks) (hSettled : after.Settled)
    (hMem : setback ∈ setbacks) :
    after.selector.pinned = false ∧ after.selector.selected ≠ some setback.device := by
  refine ⟨?_, fun hSelected => ?_⟩
  · cases hPinned : before.selector.pinned with
    | false => exact (h.free hPinned).1
    | true =>
      rcases h.held hPinned with ⟨rfl, _⟩ | ⟨hGone, _⟩
      · cases hMem
      · exact hGone
  · obtain ⟨chosen, _, hChosen, hSound⟩ := hSettled.selected
    obtain rfl : setback.device = chosen := Option.some.inj (hSelected.symm.trans hChosen)
    cases hSound.symm.trans (h.marked setback hMem)

theorem Bears.kept (h : before.Bears after setbacks) (hPinned : before.selector.pinned = true)
    (hNone : ∀ setback ∈ setbacks, setback.hitsPin = false) :
    after.selector = before.selector ∧ after.tracker.failed = before.tracker.failed := by
  rcases h.held hPinned with ⟨_, hSame⟩ | ⟨_, setback, hMem, hHits, _⟩
  · exact hSame
  · cases (hNone setback hMem).symm.trans hHits

theorem Settled.selected_mem (h : switch.Settled) (hSelected : switch.selector.selected = some device) :
    device ∈ switch.selector.available := by
  obtain ⟨chosen, hMem, hChosen, _⟩ := h.selected
  obtain rfl : device = chosen := Option.some.inj (hSelected.symm.trans hChosen)
  exact hMem

/-- Where nothing is selected anew, the device is still there and keeps the pin unless it fails. -/
theorem Bears.pinLaw (h : before.Bears after setbacks) (hBefore : before.Settled)
    (hAfter : after.Settled) (hPinned : before.selector.pinned = true)
    (hSelected : before.selector.selected = some device) : after.PinLaw device setbacks := by
  have hOffered : (∀ setback ∈ setbacks, setback.hitsPin = false) →
      device ∈ after.selector.available := by
    intro hNone
    rw [(h.kept hPinned hNone).1]
    exact hBefore.selected_mem hSelected
  refine ⟨fun _ hMem _ => h.lost hAfter hMem, fun hNone _ => ?_, fun hNone hGone => ?_,
    fun hNone hGone => ?_⟩
  · rw [(h.kept hPinned hNone).1]
    exact ⟨hPinned, hSelected⟩
  · exact absurd (hOffered hNone) hGone
  · exact absurd (hOffered hNone) hGone

variable [Platform σ]

/-- The law for a selection that is made anew. -/
theorem Steady.pinLaw_refresh (h : Steady order switch) (hUnspoiled : switch.Unspoiled)
    (hRunning : switch.phase ≠ .stopped) (hPinned : switch.selector.pinned = true)
    (hSelected : switch.selector.selected = some device)
    (hEarpiece : device = .earpiece → KeepsEarpiece σ) (now : Nat) :
    (switch.refresh now).PinLaw device (switch.refreshSetbacks now) := by
  have hBears := h.bears_refreshSince hUnspoiled switch.view now
  have hReroutes := reroutes_refreshSince switch switch.view now
  have hOffered := mem_available_refreshSince switch switch.view now hEarpiece
  have hLast := h.refresh hUnspoiled hRunning now
  have hSettled : (switch.refresh now).Settled := hLast.settled (hReroutes.phase ▸ hRunning)
  have hChosen := (h.poised hUnspoiled).settled
  rw [← Switch.refresh] at hBears hReroutes hOffered
  have hExcludes : switch.excludes [] = switch.fails := excludes_eq_fails h.sound (by simp)
  have hAvailable : (switch.recompute []).selector.available =
      switch.selector.order.arrange switch.candidates := Selector.available_recompute
  have hSuccessor : (switch.selector.load switch.candidates).successor? (switch.excludes []) =
      (switch.recompute []).heir? := by
    rw [hExcludes, heir?, hAvailable]
    rfl
  have hArranged : device ∉ (switch.refresh now).selector.available →
      device ∉ switch.selector.order.arrange switch.candidates := by
    intro hGone hMem
    exact hGone (hOffered.mpr (PreferredOrder.mem_arrange.mp hMem))
  -- A headset that the pin passes to holds it throughout the routing, if none fails.
  have hHeir : (∀ setback ∈ switch.refreshSetbacks now, setback.hitsPin = false) →
      device ∉ (switch.refresh now).selector.available → device.isBluetooth = true →
      ∀ heir, (switch.recompute []).heir? = some heir →
        (switch.refresh now).selector.pinned = true ∧
          (switch.refresh now).selector.selected = some heir ∧
          (switch.refresh now).heir? = some heir := by
    intro hNone hGone hHeadset heir hHeir
    have hPassed := Selector.recompute_passed hPinned hSelected (hArranged hGone) hHeadset
      (hSuccessor.trans hHeir)
    obtain ⟨hSelector, hFailed⟩ := hBears.kept hPassed.1 hNone
    rw [heir?_congr hSelector hFailed, hSelector]
    exact ⟨hPassed.1, hPassed.2, hHeir⟩
  refine ⟨fun _ hMem _ => hBears.lost hSettled hMem, fun hNone hMem => ?_,
    fun hNone hGone hHeadset heir hFound => ?_, fun hNone hGone hNoHeir => ?_⟩
  · have hKept : (switch.recompute []).selector.pinned = true ∧
        (switch.recompute []).selector.selected = some device :=
      Selector.recompute_kept hPinned hSelected
        (PreferredOrder.mem_arrange.mpr (hOffered.mp hMem))
    rw [(hBears.kept hKept.1 hNone).1]
    exact hKept
  · cases hFirst : (switch.recompute []).heir? with
    | none =>
      have hStill := heir?_none_mono hChosen hSettled hReroutes.steps.headsets.2.1
        hReroutes.steps.headsets.2.2 hFirst
      cases hStill.symm.trans hFound
    | some first =>
      obtain ⟨hStill, hMoved, hSame⟩ := hHeir hNone hGone hHeadset first hFirst
      obtain rfl : first = heir := Option.some.inj (hSame.symm.trans hFound)
      rw [heir?, hSettled.find?_headset, Option.map_eq_some_iff] at hFound
      obtain ⟨headset, hLatest, rfl⟩ := hFound
      exact ⟨hStill, hMoved, headset, rfl, hLatest⟩
  · refine (hBears.free (Selector.recompute_dropped hPinned hSelected (hArranged hGone) ?_)).1
    intro hHeadset
    rw [hSuccessor]
    cases hFirst : (switch.recompute []).heir? with
    | none => rfl
    | some first =>
      obtain ⟨_, _, hSame⟩ := hHeir hNone hGone hHeadset first hFirst
      cases hSame.symm.trans (hNoHeir hHeadset)

omit [Platform σ] in
theorem failed_of_report {event : BluetoothEvent}
    (h : switch.tracker.report? event = some ⟨.activationError, device⟩) :
    ∃ headset, device = .bluetoothHeadset headset ∧
      headset.address ∈ (switch.tracker.apply event).failed := by
  cases event with
  | audioFailed address =>
    obtain ⟨headset, hFound, hReport⟩ := Option.map_eq_some_iff.mp h
    cases hReport
    obtain ⟨_, rfl⟩ := Tracker.mem_of_find? hFound
    refine ⟨headset, rfl, ?_⟩
    rw [Tracker.apply, hFound]
    exact Tracker.mem_markFailed_iff.mpr (.inl rfl)
  | connected headset => cases h
  | _ =>
    obtain ⟨headset, _, hReport⟩ := Option.map_eq_some_iff.mp h
    cases hReport

omit [Platform σ] in
theorem Consistent.running_of_pinned (h : Consistent order switch)
    (hPinned : switch.selector.pinned = true) : switch.phase ≠ .stopped := by
  intro hStopped
  rw [(h.stopped hStopped).2] at hPinned
  cases hPinned

/-- As long as a callback leaves the selection alone, the law is that of the refresh after it. -/
theorem Consistent.pinLaw_applied (h : Consistent order switch)
    (hPinned : switch.selector.pinned = true) (hSelected : switch.selector.selected = some device)
    (hEarpiece : device = .earpiece → KeepsEarpiece σ) {callback : Callback}
    (hSelector : (switch.applyCallback callback).2.selector = switch.selector) (now : Nat) :
    ((switch.applyCallback callback).2.refresh now).PinLaw device
      ((switch.applyCallback callback).2.refreshSetbacks now) := by
  have hApplied : (switch.applyCallback callback).2.phase ≠ .stopped := by
    rw [phase_applyCallback]
    exact h.running_of_pinned hPinned
  rw [← hSelector] at hPinned hSelected
  exact (h.toSteady.applyCallback callback).pinLaw_refresh
    (h.unspoiled.applyCallback h.sound h.anchored callback) hApplied hPinned hSelected hEarpiece now

/-- The law for a callback that reports a failure, of the headset that holds the pin or of another. -/
theorem Consistent.pinLaw_failed (h : Consistent order switch)
    (hPinned : switch.selector.pinned = true) (hSelected : switch.selector.selected = some device)
    (hEarpiece : device = .earpiece → KeepsEarpiece σ) {callback : Callback} {failed : Device}
    (hHeard : switch.heard? callback = some ⟨.activationError, failed⟩) (now : Nat)
    (hSettled : ((switch.applyCallback callback).2.refresh now).Settled) :
    ((switch.applyCallback callback).2.refresh now).PinLaw device
      (⟨failed, switch.holder?⟩ :: (switch.applyCallback callback).2.refreshSetbacks now) := by
  obtain ⟨event, _, hListening, hReport, hEq⟩ := applyCallback_heard hHeard
  obtain ⟨_, _, hTracker, _, hSelector⟩ := applyBluetooth_eq hListening hReport
  rw [← hEq, if_pos rfl] at hSelector
  rw [← hEq] at hTracker
  by_cases hOwn : failed = device
  · subst hOwn
    obtain ⟨headset, rfl, hFailed⟩ := failed_of_report hReport
    have hFree : (switch.applyCallback callback).2.selector.pinned = false := by
      rw [hSelector]
      exact pinned_unpin hSelected
    have hMarked : (switch.applyCallback callback).2.fails (.bluetoothHeadset headset) = true :=
      fails_of_mem (hTracker ▸ hFailed)
    have hBears := (h.toSteady.applyCallback callback).bears_yielded
      (h.unspoiled.applyCallback h.sound h.anchored callback) hFree hMarked hSelected
      (switch.applyCallback callback).2.view now
    exact hBears.pinLaw (h.settled (h.running_of_pinned hPinned)) hSettled hPinned hSelected
  · have hOther : switch.selector.unpin failed = switch.selector := by
      refine if_neg fun hSame => hOwn ?_
      exact Option.some.inj (hSame.symm.trans hSelected)
    have hHolder : switch.holder? = some device := by simp [holder?, hPinned, hSelected]
    refine (h.pinLaw_applied hPinned hSelected hEarpiece (hSelector.trans hOther) now).cons ?_
    simpa [Setback.hitsPin, hHolder] using fun hSame => hOwn hSame.symm

/-- The law for one callback: what it reports and, after it, the selection that is made anew. -/
theorem Consistent.pinLaw_handle (h : Consistent order switch)
    (hPinned : switch.selector.pinned = true) (hSelected : switch.selector.selected = some device)
    (hEarpiece : device = .earpiece → KeepsEarpiece σ) (callback : Callback) (now : Nat) :
    (switch.handle callback now).PinLaw device (switch.handleSetbacks callback now) := by
  have hRunning := h.running_of_pinned hPinned
  have hStill : (switch.handle callback now).phase ≠ .stopped := by
    rw [(reroutes_handle switch callback now).phase, phase_applyCallback]
    exact hRunning
  have hSettled := (h.handle callback now).settled hStill
  cases hChanged : (switch.applyCallback callback).1 with
  | false =>
    obtain ⟨lines, hSame⟩ := applyCallback_unchanged hChanged
    rw [handle_unchanged hChanged] at hSettled ⊢
    rw [handleSetbacks_unchanged hChanged]
    have hBears : switch.Bears (switch.applyCallback callback).2 [] := by
      rw [hSame]
      exact bears_of_same rfl rfl
    exact hBears.pinLaw (h.settled hRunning) hSettled hPinned hSelected
  | true =>
    rw [handle_changed hChanged] at hSettled ⊢
    rw [handleSetbacks_changed hChanged]
    cases hHeard : switch.heard? callback with
    | none =>
      obtain ⟨wired, lines, hSame⟩ := applyCallback_unheard hHeard
      exact h.pinLaw_applied hPinned hSelected hEarpiece (by rw [hSame]) now
    | some report =>
      obtain ⟨change, reported⟩ := report
      by_cases hError : change = .activationError
      · subst hError
        exact h.pinLaw_failed hPinned hSelected hEarpiece hHeard now hSettled
      · obtain ⟨event, _, hListening, hReport, hEq⟩ := applyCallback_heard hHeard
        obtain ⟨_, _, _, _, hSelector⟩ := applyBluetooth_eq hListening hReport
        rw [← hEq, if_neg hError] at hSelector
        simp only [Option.bind_some, setback?, if_neg hError]
        exact h.pinLaw_applied hPinned hSelected hEarpiece hSelector now

/-! ## Operations -/

theorem running_perform {operation : Operation} (hLeaves : operation.leavesPin = true)
    (hRunning : switch.phase ≠ .stopped) : (switch.perform operation now).phase ≠ .stopped := by
  have hCallback : ∀ after : Switch σ, after.phase ≠ .stopped →
      (after.beat (.callback now)).phase ≠ .stopped := fun after => (tells_next after now).running
  have hPoll : ∀ after : Switch σ, after.phase ≠ .stopped → (after.poll now).phase ≠ .stopped :=
    fun after => (tells_poll after now).running
  have hAct : ∀ after : Switch σ, after.phase ≠ .stopped →
      (after.act operation now).phase ≠ .stopped := by
    intro after hAfter
    cases operation with
    | stop | select | clearSelection => cases hLeaves
    | start listener =>
      rw [act, start, if_pos hAfter]
      exact hAfter
    | activate => exact (tells_engage after now).running hAfter
    | deactivate => exact (tells_disengage after).running hAfter
    | hostResumed => exact (tells_resume after).running hAfter
    | _ => exact hAfter
  exact perform_induction_act hCallback hPoll hAct hRunning

theorem pumpBeats_of_empty (h : switch.host.queue = []) (now : Nat) :
    switch.pumpBeats now = [.poll now] := by
  simp [pumpBeats, drain, drainWithin, h]

/-- With no callback waiting, an operation that leaves the pin alone makes at most two beats that can
fail a headset: the look at the deadline and an activation. -/
theorem Consistent.bears_perform (h : Consistent order switch) (hRunning : switch.phase ≠ .stopped)
    (hQueue : switch.host.queue = []) {operation : Operation} (hLeaves : operation.leavesPin = true)
    (hOther : operation ≠ .hostResumed) (now : Nat) :
    switch.Bears (switch.perform operation now) (switch.setbacks operation now) := by
  have hBeats := pumpBeats_of_empty hQueue now
  have hPoll := h.bears_poll now
  cases operation with
  | stop | select | clearSelection => cases hLeaves
  | hostResumed => exact absurd rfl hOther
  | activate =>
    rw [perform_eq_foldl, setbacks, beats, hBeats]
    exact hPoll.trans ((h.poll now).bears_engage now) (marks_engage _ now)
  | deactivate =>
    obtain ⟨hSelector, hFailed⟩ := (h.poll now).disengage_frame
    rw [perform_eq_foldl, setbacks, beats, hBeats]
    exact hPoll.trans (bears_of_same hSelector hFailed) fun address hMem => hFailed ▸ hMem
  | pump =>
    rw [perform_eq_foldl, setbacks, beats, hBeats]
    exact hPoll
  | poll => exact hPoll
  | start listener =>
    have hSame : switch.perform (.start listener) now = switch.write
        (.debug "Audio switch already started" [("state", switch.phase.name)]) := if_pos hRunning
    rw [hSame]
    exact bears_of_same rfl rfl
  | next =>
    have hSame : switch.perform .next now = switch := by simp [perform, next?, hQueue]
    have hNone : switch.setbacks .next now = [] := by
      simp [setbacks, beats, noteBeat, noteSetbacks, beatSetbacks, hQueue]
    rw [hSame, hNone]
    exact bears_of_same rfl rfl
  | _ => exact bears_of_same rfl rfl

/-! ## While headsets come in

Only a pin on another device outlives the beginning of headset tracking: the headsets that come in are
told of by callbacks, each with a refresh of its own.
-/

structure Rests (device : Device) (noted : List Setback) (switch : Switch σ) : Prop where
  pin : switch.selector.pinned = true ∧ switch.selector.selected = some device ∨
    switch.selector.pinned = false ∧ device ∉ switch.selector.available ∧
      device ∉ switch.candidates
  missed : ∀ setback ∈ noted, setback.hitsPin = false
  /-- Nothing that waits can bring the device back. -/
  waiting : ∀ callback ∈ switch.host.queue, ∃ event, callback.report = .bluetooth event

/-- Selecting anew leaves the pin with a device that cannot fail, or drops it for good. -/
theorem Steady.rests_refreshSince (h : Steady order switch) (hUnspoiled : switch.Unspoiled)
    (hOther : device.isBluetooth = false) (hEarpiece : device = .earpiece → KeepsEarpiece σ)
    (hPin : switch.selector.pinned = true ∧ switch.selector.selected = some device ∨
      switch.selector.pinned = false ∧ device ∉ switch.candidates)
    (view : List Device × Option Device) (now : Nat) :
    let last := switch.refreshSince view now
    (last.selector.pinned = true ∧ last.selector.selected = some device ∨
      last.selector.pinned = false ∧ device ∉ last.selector.available ∧
        device ∉ last.candidates) ∧
      ∀ setback ∈ switch.refreshSetbacks now, setback.hitsPin = false := by
  intro last
  have hBears := h.bears_refreshSince hUnspoiled view now
  have hOffered := mem_available_refreshSince switch view now hEarpiece
  have hThere := (reroutes_refreshSince switch view now).mem_candidates hEarpiece
  by_cases hMem : device ∈ switch.candidates
  · rcases hPin with ⟨hPinned, hSelected⟩ | ⟨_, hGone⟩
    · have hKept : (switch.recompute []).selector.pinned = true ∧
          (switch.recompute []).selector.selected = some device :=
        Selector.recompute_kept hPinned hSelected (PreferredOrder.mem_arrange.mpr hMem)
      obtain ⟨hNone, hSelector⟩ := hBears.held_other hKept.1 hKept.2 hOther
      refine ⟨.inl ?_, by simp [hNone]⟩
      rw [hSelector]
      exact hKept
    · exact absurd hMem hGone
  · have hFree : (switch.recompute []).selector.pinned = false := by
      rcases hPin with ⟨hPinned, hSelected⟩ | ⟨hFree, _⟩
      · refine Selector.recompute_dropped hPinned hSelected ?_ (by simp [hOther])
        rwa [PreferredOrder.mem_arrange]
      · exact Selector.recompute_free hFree
    obtain ⟨hStill, hMissed⟩ := hBears.free hFree
    exact ⟨.inr ⟨hStill, fun hBack => hMem (hOffered.mp hBack), fun hBack => hMem (hThere.mp hBack)⟩,
      hMissed⟩

theorem mem_candidates_applyCallback {callback : Callback}
    (hBluetooth : ∃ event, callback.report = .bluetooth event)
    (hOther : device.isBluetooth = false) (hEarpiece : device = .earpiece → KeepsEarpiece σ) :
    device ∈ (switch.applyCallback callback).2.candidates ↔ device ∈ switch.candidates := by
  obtain ⟨event, hReport⟩ := hBluetooth
  have hNoHeadset : ∀ headsets : List Headset,
      ¬∃ headset ∈ headsets, .bluetoothHeadset headset = device := by
    rintro headsets ⟨headset, _, rfl⟩
    cases hOther
  have hWired : (switch.applyCallback callback).2.wired = switch.wired := by
    rw [applyCallback, hReport]
    split
    · rfl
    · exact wired_applyBluetooth switch event
  have hKept : (device = .earpiece ∧
      Platform.hasEarpiece (switch.applyCallback callback).2.host.platform = true) ↔
      (device = .earpiece ∧ Platform.hasEarpiece switch.host.platform = true) := by
    obtain ⟨_, hIssued, _⟩ := (shifts_applyCallback switch callback).voices
    refine and_congr_right fun hDevice => ?_
    rw [hIssued.hasEarpiece (hEarpiece hDevice)]
  rw [mem_candidates_iff, mem_candidates_iff, hWired, hKept]
  simp only [hNoHeadset, false_or]

omit [Platform σ] in
/-- What is heard of a headset does not touch the pin of another device. -/
theorem pin_applyCallback (hOther : device.isBluetooth = false)
    (hPin : switch.selector.pinned = true → switch.selector.selected = some device)
    (callback : Callback) :
    (switch.applyCallback callback).2.selector.pinned = switch.selector.pinned ∧
      (switch.applyCallback callback).2.selector.selected = switch.selector.selected ∧
      ∀ setback ∈ ((switch.heard? callback).bind switch.setback?).toList,
        setback.hitsPin = false := by
  cases hHeard : switch.heard? callback with
  | none =>
    obtain ⟨wired, lines, hEq⟩ := applyCallback_unheard hHeard
    rw [hEq]
    exact ⟨rfl, rfl, by simp⟩
  | some report =>
    obtain ⟨event, _, hListening, hReport, hEq⟩ := applyCallback_heard hHeard
    obtain ⟨_, _, _, _, hSelector⟩ := applyBluetooth_eq hListening hReport
    obtain ⟨headset, hHeadset⟩ := Tracker.report?_device hReport
    obtain ⟨change, reported⟩ := report
    obtain rfl : reported = .bluetoothHeadset headset := hHeadset
    have hHolder : switch.holder? ≠ some (.bluetoothHeadset headset) := by
      rw [holder?]
      split
      · rename_i hPinned
        rw [hPin hPinned]
        rintro ⟨⟩
        cases hOther
      · rintro ⟨⟩
    have hUnpinned : (switch.selector.unpin (.bluetoothHeadset headset)).pinned =
          switch.selector.pinned ∧
        (switch.selector.unpin (.bluetoothHeadset headset)).selected =
          switch.selector.selected := by
      rw [Selector.unpin]
      split
      · rename_i hSelected
        refine ⟨(Bool.eq_false_iff.mpr fun hPinned => hHolder ?_).symm, rfl⟩
        rw [holder?, if_pos hPinned, hSelected]
      · exact ⟨rfl, rfl⟩
    have hMissed : ∀ setback ∈ (switch.setback? ⟨change, .bluetoothHeadset headset⟩).toList,
        setback.hitsPin = false := by
      rw [setback?]
      split
      · simpa [Setback.hitsPin] using hHolder
      · simp
    rw [hEq, hSelector]
    refine ⟨?_, ?_, hMissed⟩
    · split
      · exact hUnpinned.1
      · rfl
    · split
      · exact hUnpinned.2
      · rfl

/-- Routing adds nothing to the queue but replies, and those are about a headset. -/
theorem Reroutes.waiting_bluetooth (h : before.Reroutes after)
    (hBefore : ∀ callback ∈ before.host.queue, ∃ event, callback.report = .bluetooth event) :
    ∀ callback ∈ after.host.queue, ∃ event, callback.report = .bluetooth event := by
  intro callback hMem
  rcases h.steps.waiting hMem with hOld | ⟨_, address, hReply⟩
  · exact hBefore callback hOld
  · exact ⟨_, hReply⟩

theorem Rests.selected {noted : List Setback} (h : switch.Rests device noted)
    (hPinned : switch.selector.pinned = true) : switch.selector.selected = some device := by
  rcases h.pin with ⟨_, hSelected⟩ | ⟨hFree, _⟩
  · exact hSelected
  · cases hFree.symm.trans hPinned

theorem Rests.handle {noted : List Setback} (h : switch.Rests device noted)
    (hConsistent : Consistent order switch) {callback : Callback}
    (hBluetooth : ∃ event, callback.report = .bluetooth event)
    (hOther : device.isBluetooth = false) (hEarpiece : device = .earpiece → KeepsEarpiece σ)
    (now : Nat) :
    (switch.handle callback now).Rests device (noted ++ switch.handleSetbacks callback now) := by
  obtain ⟨hPinned, hSelected, hMissed⟩ := pin_applyCallback hOther h.selected callback
  have hThere :
      device ∈ (switch.applyCallback callback).2.candidates ↔ device ∈ switch.candidates :=
    mem_candidates_applyCallback hBluetooth hOther hEarpiece
  have hWaiting := (reroutes_handle switch callback now).waiting_bluetooth
    (by rw [queue_applyCallback]; exact h.waiting)
  cases hChanged : (switch.applyCallback callback).1 with
  | false =>
    obtain ⟨lines, hSame⟩ := applyCallback_unchanged hChanged
    refine ⟨?_, ?_, hWaiting⟩
    · rw [handle_unchanged hChanged, hPinned, hSelected, hThere, hSame]
      exact h.pin
    · rw [handleSetbacks_unchanged hChanged, List.append_nil]
      exact h.missed
  | true =>
    have hPin : (switch.applyCallback callback).2.selector.pinned = true ∧
          (switch.applyCallback callback).2.selector.selected = some device ∨
        (switch.applyCallback callback).2.selector.pinned = false ∧
          device ∉ (switch.applyCallback callback).2.candidates := by
      rw [hPinned, hSelected, hThere]
      exact h.pin.imp_right fun hGone => ⟨hGone.1, hGone.2.2⟩
    obtain ⟨hLast, hRest⟩ := (hConsistent.toSteady.applyCallback callback).rests_refreshSince
      (hConsistent.unspoiled.applyCallback hConsistent.sound hConsistent.anchored callback) hOther
      hEarpiece hPin (switch.applyCallback callback).2.view now
    refine ⟨?_, ?_, hWaiting⟩
    · rw [handle_changed hChanged]
      exact hLast
    · rw [handleSetbacks_changed hChanged]
      exact List.forall_mem_append.mpr ⟨h.missed, List.forall_mem_append.mpr ⟨hMissed, hRest⟩⟩

theorem Rests.next {noted : List Setback} (h : switch.Rests device noted)
    (hConsistent : Consistent order switch) (hOther : device.isBluetooth = false)
    (hEarpiece : device = .earpiece → KeepsEarpiece σ) (now : Nat) :
    (switch.beat (.callback now)).Rests device (switch.noteSetbacks (.callback now) noted) := by
  rw [beat, noteSetbacks, beatSetbacks, next?]
  cases hQueue : switch.host.queue with
  | nil =>
    rw [List.append_nil]
    exact h
  | cons callback rest =>
    have hTaken : (switch.requeue rest).Rests device noted := by
      refine ⟨h.pin, h.missed, fun later hMem => h.waiting later ?_⟩
      rw [hQueue]
      exact List.mem_cons_of_mem callback hMem
    have hStill : Consistent order (switch.requeue rest) := hConsistent.requeue rest
    exact hTaken.handle hStill (h.waiting callback (hQueue ▸ List.mem_cons_self)) hOther hEarpiece now

theorem Rests.poll {noted : List Setback} (h : switch.Rests device noted)
    (hConsistent : Consistent order switch) (hOther : device.isBluetooth = false)
    (hEarpiece : device = .earpiece → KeepsEarpiece σ) (now : Nat) :
    (switch.poll now).Rests device (switch.noteSetbacks (.poll now) noted) := by
  have hBears := hConsistent.bears_poll now
  have hReroutes := reroutes_poll switch now
  have hWaiting := hReroutes.waiting_bluetooth h.waiting
  rcases h.pin with ⟨hPinned, hSelected⟩ | ⟨hFree, hGone, hAway⟩
  · obtain ⟨hNone, hSelector⟩ := hBears.held_other hPinned hSelected hOther
    refine ⟨.inl ?_, ?_, hWaiting⟩
    · rw [hSelector]
      exact ⟨hPinned, hSelected⟩
    · rw [noteSetbacks, beatSetbacks, hNone, List.append_nil]
      exact h.missed
  · obtain ⟨hStill, hMissed⟩ := hBears.free hFree
    refine ⟨.inr ⟨hStill, ?_, ?_⟩, List.forall_mem_append.mpr ⟨h.missed, hMissed⟩, hWaiting⟩
    · rcases hConsistent.poll_cases now with
        hSame | ⟨yielded, _, _, _, _, _, hYielded, _, _, _, hRefresh⟩
      · rwa [hSame]
      · rw [hRefresh, Switch.refresh, mem_available_refreshSince _ _ _ hEarpiece,
          hYielded.mem_candidates hEarpiece]
        exact hAway
    · rwa [hReroutes.mem_candidates hEarpiece]

theorem Rests.pinLaw {noted : List Setback} (h : switch.Rests device noted)
    (hSettled : switch.Settled) (hOther : device.isBluetooth = false) :
    switch.PinLaw device noted := by
  refine ⟨fun setback hMem hHits => ?_, fun _ hMem => ?_, fun _ _ hHeadset => ?_,
    fun _ hGone _ => ?_⟩
  · cases (h.missed setback hMem).symm.trans hHits
  · rcases h.pin with hHeld | ⟨_, hGone, _⟩
    · exact hHeld
    · exact absurd hMem hGone
  · cases hOther.symm.trans hHeadset
  · rcases h.pin with ⟨_, hSelected⟩ | ⟨hFree, _⟩
    · exact absurd (hSettled.selected_mem hSelected) hGone
    · exact hFree

/-- When headset tracking begins, the pin is on another device than a headset. -/
theorem Consistent.other_of_resumable (h : Consistent order switch)
    (hPinned : switch.selector.pinned = true) (hSelected : switch.selector.selected = some device)
    (hResumable : switch.resumable = true) : device.isBluetooth = false := by
  cases device with
  | bluetoothHeadset headset =>
    have hMem := h.anchored hPinned headset hSelected
    have hDeaf : switch.tracker.listening = false := by
      simp only [resumable, Bool.and_eq_true] at hResumable
      simpa using hResumable.1.2
    rw [h.sound.silent hDeaf] at hMem
    cases hMem
  | _ => rfl

theorem rests_resume (hPinned : switch.selector.pinned = true)
    (hSelected : switch.selector.selected = some device) (hQueue : switch.host.queue = []) :
    switch.resume.Rests device [] := by
  rw [resume]
  split
  · generalize hWritten : switch.write _ = written
    have hKept : written.selector = switch.selector ∧ written.host.queue = [] := by
      rw [← hWritten, ← hQueue]
      exact ⟨rfl, Host.queue_write _ _⟩
    obtain ⟨_, _, hBegun, _⟩ := startBluetooth_eq written
    refine ⟨.inl ?_, by simp, fun callback hMem => ?_⟩
    · rw [hBegun, hKept.1]
      exact ⟨hPinned, hSelected⟩
    · rcases waiting_startBluetooth written hMem with hOld | ⟨headset, rfl⟩
      · rw [hKept.2] at hOld
        cases hOld
      · exact ⟨_, rfl⟩
  · exact ⟨.inl ⟨hPinned, hSelected⟩, by simp, by simp [hQueue]⟩

/-- The callbacks of the headsets that come in, and the look at the deadline after them. -/
theorem Rests.pumped {noted : List Setback} (h : switch.Rests device noted)
    (hConsistent : Consistent order switch) (hOther : device.isBluetooth = false)
    (hEarpiece : device = .earpiece → KeepsEarpiece σ) (now : Nat) :
    let last := (switch.pumpBeats now).foldl (noteBeat noteSetbacks) (noted, switch)
    Consistent order last.2 ∧ last.2.Rests device last.1 := by
  let kept (noted : List Setback × Switch σ) : Prop :=
    Consistent order noted.2 ∧ noted.2.Rests device noted.1
  have hBegin : kept (noted, switch) := ⟨hConsistent, h⟩
  refine List.foldlRecOn _ (motive := kept) _ hBegin fun after hAfter beat hMem => ?_
  obtain ⟨hStill, hRests⟩ := hAfter
  refine ⟨hStill.beat beat, ?_⟩
  rcases mem_pumpBeats hMem with rfl | rfl
  · exact hRests.next hStill hOther hEarpiece now
  · exact hRests.poll hStill hOther hEarpiece now

theorem Consistent.pinLaw_hostResumed (h : Consistent order switch)
    (hPinned : switch.selector.pinned = true) (hSelected : switch.selector.selected = some device)
    (hEarpiece : device = .earpiece → KeepsEarpiece σ) (hQueue : switch.host.queue = [])
    (now : Nat) :
    (switch.perform .hostResumed now).PinLaw device (switch.setbacks .hostResumed now) := by
  have hRunning := h.running_of_pinned hPinned
  have hPerformed : (switch.perform .hostResumed now).phase ≠ .stopped := running_perform rfl hRunning
  rw [perform_eq_foldl, ← snd_noteBeats noteSetbacks ([], switch)] at hPerformed ⊢
  rw [setbacks]
  rw [beats] at hPerformed ⊢
  split at hPerformed
  · rename_i hResumable
    have hOther := h.other_of_resumable hPinned hSelected hResumable
    obtain ⟨hLast, hRests⟩ := (rests_resume hPinned hSelected hQueue).pumped h.resume hOther
      hEarpiece now
    rw [if_pos hResumable]
    exact hRests.pinLaw (hLast.settled hPerformed) hOther
  · rename_i hDeaf
    rw [if_neg hDeaf]
    exact (bears_of_same rfl rfl).pinLaw (h.settled hRunning) (h.settled hRunning) hPinned hSelected

/-- What becomes of a pin in one step that is taken while no callback waits: one callback of any
session and any content, or an operation that is neither a choice of the application nor the end of
the session. The step's setbacks are those that a headset listener is told of, in order. Unless the
device that holds the pin fails, the pin stays as long as its device is there; the pin of a headset
that is gone passes to the first available headset that did not fail, which connected last; any other
pin is dropped. If the headset that holds the pin fails, by a report, by the deadline or by a refused
request, nothing is pinned and that headset is not selected. A pin on the earpiece is covered where no
command makes the earpiece come or go. -/
theorem pin_law (config : SwitchConfig) (platform : σ) (moves : List (Move σ)) (device : Device)
    (now : Nat) (hPinned : ((create config platform).run moves).selector.pinned = true)
    (hSelected : ((create config platform).run moves).selector.selected = some device)
    (hQueue : ((create config platform).run moves).host.queue = [])
    (hEarpiece : device = .earpiece → KeepsEarpiece σ) :
    let switch := (create config platform).run moves
    (∀ callback,
      let after := (switch.receive callback).perform .next now
      let setbacks := (switch.receive callback).setbacks .next now
      switch.Told after setbacks ∧ after.PinLaw device setbacks) ∧
    ∀ operation, operation.leavesPin = true →
      let after := switch.perform operation now
      let setbacks := switch.setbacks operation now
      switch.Told after setbacks ∧ after.PinLaw device setbacks := by
  intro switch
  have h : Consistent config.order switch := consistent_run config platform moves
  have hRunning := h.running_of_pinned hPinned
  refine ⟨fun callback => ⟨?_, ?_⟩, fun operation hLeaves => ⟨told_perform hLeaves hRunning now, ?_⟩⟩
  · have hReceived : (switch.receive callback).phase ≠ .stopped := hRunning
    have hLeaves : (Operation.next : Operation).leavesPin = true := rfl
    exact told_perform hLeaves hReceived now
  · have hTaken : (switch.receive callback).host.queue = [callback] := by
      simp [receive, Host.deliver, hQueue, switch]
    have hSame : (switch.receive callback).requeue [] = switch := by
      rw [← hQueue]
      rfl
    have hHandled : (switch.receive callback).perform .next now = switch.handle callback now := by
      rw [perform, next?, hTaken]
      exact congrArg (fun taken => taken.handle callback now) hSame
    have hNoted : (switch.receive callback).setbacks .next now =
        switch.handleSetbacks callback now := by
      have hBeat : (switch.receive callback).beatSetbacks (.callback now) =
          switch.handleSetbacks callback now := by
        rw [beatSetbacks, hTaken]
        exact congrArg (fun taken => taken.handleSetbacks callback now) hSame
      exact hBeat
    rw [hHandled, hNoted]
    exact h.pinLaw_handle hPinned hSelected hEarpiece callback now
  · by_cases hOther : operation = .hostResumed
    · subst hOther
      exact h.pinLaw_hostResumed hPinned hSelected hEarpiece hQueue now
    · have hAfter : Consistent config.order (switch.perform operation now) :=
        h.move (.operation operation now)
      exact (h.bears_perform hRunning hQueue hLeaves hOther now).pinLaw (h.settled hRunning)
        (hAfter.settled (running_perform hLeaves hRunning)) hPinned hSelected

/-- The pin passes to the older headset when the pinned one disconnects; if the request for its link is
refused, the pin is gone. -/
theorem pin_law_hand_over :
    let config : SwitchConfig := ⟨.usual, usualLinkTimeout, true, false⟩
    let older : Headset := ⟨"Older", "BB"⟩
    let buds : Headset := ⟨"Buds", "AA"⟩
    let moves : List (Move Handset) := [.operation (.start none) 0,
      .callback ⟨1, .bluetooth (.connected older)⟩, .callback ⟨1, .bluetooth (.connected buds)⟩,
      .operation (.select (.bluetoothHeadset buds)) 0, .operation .activate 0, .operation .pump 0]
    let granting := (create config Handset.fresh).run moves
    let refusing := (create config Handset.fresh).run
      (moves ++ [.platform ({ · with refusesLinks := true })])
    let gone : Callback := ⟨1, .bluetooth (.disconnected "AA")⟩
    let passed := (granting.receive gone).perform .next 0
    let lost := (refusing.receive gone).perform .next 0
    (granting.selector.pinned = true ∧
      granting.selector.selected = some (.bluetoothHeadset buds) ∧ granting.host.queue = []) ∧
      (passed.selector.pinned = true ∧
        passed.selector.selected = some (.bluetoothHeadset older)) ∧
      (refusing.receive gone).setbacks .next 0 =
        [⟨.bluetoothHeadset older, some (.bluetoothHeadset older)⟩] ∧
      lost.selector.pinned = false ∧ lost.selector.selected ≠ some (.bluetoothHeadset older) := by
  intro config older buds moves
  simp only
  obtain ⟨hGranting, _⟩ := pin_law config Handset.fresh moves (.bluetoothHeadset buds) 0
    (by decide) (by decide) (by decide) fun _ => keepsEarpiece_handset
  obtain ⟨hRefusing, _⟩ := pin_law config Handset.fresh
    (moves ++ [.platform ({ · with refusesLinks := true })]) (.bluetoothHeadset buds) 0 (by decide)
    (by decide) (by decide) fun _ => keepsEarpiece_handset
  have hGone := (hGranting ⟨1, .bluetooth (.disconnected "AA")⟩).2
  have hLost := (hRefusing ⟨1, .bluetooth (.disconnected "AA")⟩).2
  obtain ⟨hPinned, hSelected, _⟩ := hGone.passed (by decide) (by decide) rfl
    (.bluetoothHeadset older) (by decide)
  have hSetbacks : (((create config Handset.fresh).run
      (moves ++ [.platform ({ · with refusesLinks := true })])).receive
        ⟨1, .bluetooth (.disconnected "AA")⟩).setbacks .next 0 =
      [⟨.bluetoothHeadset older, some (.bluetoothHeadset older)⟩] := by decide
  have hMem := List.mem_singleton_self
    (⟨.bluetoothHeadset older, some (.bluetoothHeadset older)⟩ : Setback)
  exact ⟨by decide, ⟨hPinned, hSelected⟩, hSetbacks, hLost.lost _ (hSetbacks ▸ hMem) rfl⟩

end CallAudio.Switch
