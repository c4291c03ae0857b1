import CallAudio.Proofs.Draining
import CallAudio.Proofs.Issued
import CallAudio.Proofs.LinkBeats
import CallAudio.Proofs.Reselection
import CallAudio.Proofs.Setbacks

/-! # What becomes of a pin

Routing keeps a pin or loses it, and it loses it only when the link of the pinned headset fails.
Selecting anew keeps the pin of a device that is there, passes the pin of a headset on to another
one, and otherwise drops it. Once dropped a pin does not come back by itself.
-/

namespace CallAudio

/-- No command gives the handset an earpiece or takes it away. -/
def KeepsEarpiece (σ : Type) [Platform σ] : Prop :=
  ∀ (command : Command) (platform : σ),
    Platform.hasEarpiece (Platform.carryOut command platform) = Platform.hasEarpiece platform

theorem keepsEarpiece_handset : KeepsEarpiece Handset := by
  intro command handset
  cases command <;> rfl

theorem Issued.hasEarpiece {σ : Type} [Platform σ] {issued : List Command} {before after : Host σ}
    (h : Issued issued before after) (hKeeps : KeepsEarpiece σ) :
    Platform.hasEarpiece after.platform = Platform.hasEarpiece before.platform := by
  rw [h.platform]
  generalize before.platform = platform
  clear h
  induction issued generalizing platform with
  | nil => rfl
  | cons command issued ih =>
    exact (ih (Platform.carryOut command platform)).trans (hKeeps command platform)

theorem LinkSteps.hasEarpiece {σ : Type} [Platform σ] {before after : Tracker × Host σ}
    (h : LinkSteps before after) (hKeeps : KeepsEarpiece σ) :
    Platform.hasEarpiece after.2.platform = Platform.hasEarpiece before.2.platform := by
  obtain ⟨_, _, hIssued⟩ := h.issued
  exact hIssued.hasEarpiece hKeeps

namespace Switch

variable {σ : Type} [Platform σ] {order : PreferredOrder} {before middle after switch : Switch σ}
  {device : Device} {now : Nat}

/-! ## Routing -/

/-- The pin stays and nothing fails, or the headset that holds it fails and it is gone. Where nothing
is pinned nothing becomes pinned. -/
structure Bears (before after : Switch σ) (setbacks : List Setback) : Prop where
  free : before.selector.pinned = false → after.selector.pinned = false ∧
    ∀ setback ∈ setbacks, setback.hitsPin = false
  held : before.selector.pinned = true →
    setbacks = [] ∧ after.selector = before.selector ∧
        after.tracker.failed = before.tracker.failed ∨
      after.selector.pinned = false ∧ ∃ setback ∈ setbacks, setback.hitsPin = true ∧
        before.selector.selected = some setback.device
  marked : ∀ setback ∈ setbacks, after.fails setback.device = true

omit [Platform σ] in
theorem bears_of_same (hSelector : after.selector = before.selector)
    (hFailed : after.tracker.failed = before.tracker.failed) : before.Bears after [] := by
  refine ⟨fun hFree => ⟨?_, by simp⟩, fun _ => .inl ⟨rfl, hSelector, hFailed⟩, by simp⟩
  rw [hSelector]
  exact hFree

omit [Platform σ] in
theorem Bears.trans {first last : List Setback} (h : before.Bears middle first)
    (h' : middle.Bears after last)
    (hMarks : ∀ address ∈ middle.tracker.failed, address ∈ after.tracker.failed) :
    before.Bears after (first ++ last) where
  free hFree := by
    obtain ⟨hStill, hFirst⟩ := h.free hFree
    obtain ⟨hAfter, hLast⟩ := h'.free hStill
    exact ⟨hAfter, List.forall_mem_append.mpr ⟨hFirst, hLast⟩⟩
  held hPinned := by
    rcases h.held hPinned with
      ⟨rfl, hSelector, hFailed⟩ | ⟨hGone, setback, hMem, hHits, hSelected⟩
    · rw [← hSelector] at hPinned
      rw [← hSelector, ← hFailed]
      exact h'.held hPinned
    · exact .inr ⟨(h'.free hGone).1, setback, List.mem_append_left _ hMem, hHits, hSelected⟩
  marked := by
    refine List.forall_mem_append.mpr ⟨fun setback hMem => ?_, h'.marked⟩
    exact fails_mono hMarks (h.marked setback hMem)

omit [Platform σ] in
/-- What neither selects anew nor marks a headset is of no account. -/
theorem Bears.then_same {setbacks : List Setback} (h : before.Bears middle setbacks)
    (hSelector : after.selector = middle.selector)
    (hFailed : after.tracker.failed = middle.tracker.failed) : before.Bears after setbacks := by
  have hBoth := h.trans (bears_of_same hSelector hFailed) (fun address hMem => hFailed ▸ hMem)
  rwa [List.append_nil] at hBoth

omit [Platform σ] in
theorem Bears.held_other {setbacks : List Setback} (h : before.Bears after setbacks)
    (hPinned : before.selector.pinned = true) (hSelected : before.selector.selected = some device)
    (hOther : device.isBluetooth = false) :
    setbacks = [] ∧ after.selector = before.selector := by
  rcases h.held hPinned with ⟨hNone, hSelector, _⟩ | ⟨_, setback, hMem, _, hHolder⟩
  · exact ⟨hNone, hSelector⟩
  · obtain rfl : device = setback.device := Option.some.inj (hSelected.symm.trans hHolder)
    have hFails := h.marked setback hMem
    cases hDevice : setback.device with
    | bluetoothHeadset headset => simp [hDevice, Device.isBluetooth] at hOther
    | _ => simp [hDevice, fails, Device.address?] at hFails

/-- Every attempt that fails unpins the device that it was made for. -/
theorem Poised.bears_routeWithin {tries : Nat} (h : switch.Poised)
    (hTries : switch.unfailed.length < tries) {rejected : List Device}
    (hRejected : ∀ device ∈ rejected, switch.fails device = true) :
    switch.Bears (switch.routeWithin tries rejected now)
      (switch.routeSetbacks tries rejected now) := by
  induction tries generalizing switch rejected with
  | zero => exact absurd hTries (Nat.not_lt_zero _)
  | succ tries ih =>
    cases hResult : (switch.routeOnce now).1 with
    | ok =>
      rw [routeWithin_ok hResult, routeSetbacks_ok hResult]
      exact bears_of_same rfl (h.failed_routeOnce hResult)
    | error error =>
      obtain ⟨device, hSelected, hFresh, hNext, _, hFewer, hFails⟩ :=
        h.routeOnce_error hResult hRejected
      rw [routeWithin_error hResult hSelected, routeSetbacks_error hResult hSelected]
      simp only [if_neg hFresh]
      have hRest := ih hNext (by omega) hFails
      have hMarks := (reroutes_routeWithin tries (rejected ++ [device]) now
        (((switch.routeOnce now).2.write (unroutedLine device error)).fallBack device
          (rejected ++ [device]))).steps.headsets.2.2
      have hUnpinned : (((switch.routeOnce now).2.write (unroutedLine device error)).unpin
          device).selector.pinned = false := pinned_unpin hSelected
      obtain ⟨hGone, hOthers⟩ := hRest.free (Selector.recompute_free hUnpinned)
      refine ⟨fun hFree => ⟨hGone, ?_⟩, fun hPinned => .inr ⟨hGone, _, List.mem_cons_self, ?_⟩, ?_⟩
      · refine List.forall_mem_cons.mpr ⟨?_, hOthers⟩
        simp [Setback.hitsPin, holder?, hFree]
      · simp [Setback.hitsPin, holder?, hPinned, hSelected]
      · exact List.forall_mem_cons.mpr ⟨fails_mono hMarks (hFails device (by simp)), hRest.marked⟩

theorem Poised.bears_applyRoute (h : switch.Poised) (now : Nat) :
    switch.Bears (switch.applyRoute now) (switch.applySetbacks now) :=
  h.bears_routeWithin (Nat.lt_succ_of_le (List.length_filter_le _ _)) (by simp)

omit [Platform σ] in
theorem selector_announce (switch : Switch σ) (view : List Device × Option Device) :
    (switch.announce view).selector = switch.selector := by
  rw [announce]
  split <;> rfl

/-- Once the selection is made, a refresh is routing. -/
theorem Steady.bears_refreshSince (h : Steady order switch) (hUnspoiled : switch.Unspoiled)
    (view : List Device × Option Device) (now : Nat) :
    (switch.recompute []).Bears (switch.refreshSince view now) (switch.refreshSetbacks now) := by
  obtain ⟨_, hTracker⟩ := announce_eq ((switch.recompute []).applyRoute now) view
  exact ((h.poised hUnspoiled).bears_applyRoute now).then_same (selector_announce _ view)
    (congrArg _ hTracker)

/-- The failure of a headset that was selected until then costs it the pin, and no other headset gets
it. -/
theorem Steady.bears_yielded {yielded : Switch σ} (h : Steady order yielded)
    (hUnspoiled : yielded.Unspoiled) (hFree : yielded.selector.pinned = false)
    (hFails : yielded.fails device = true) (hSelected : before.selector.selected = some device)
    (view : List Device × Option Device) (now : Nat) :
    before.Bears (yielded.refreshSince view now)
      (⟨device, before.holder?⟩ :: yielded.refreshSetbacks now) := by
  have hRefresh := h.bears_refreshSince hUnspoiled view now
  obtain ⟨hGone, hOthers⟩ := hRefresh.free (Selector.recompute_free hFree)
  have hMarks := (reroutes_refreshSince yielded view now).steps.headsets.2.2
  refine ⟨fun hBefore => ⟨hGone, ?_⟩, fun hPinned => .inr ⟨hGone, _, List.mem_cons_self, ?_⟩, ?_⟩
  · refine List.forall_mem_cons.mpr ⟨?_, hOthers⟩
    simp [Setback.hitsPin, holder?, hBefore]
  · simp [Setback.hitsPin, holder?, hPinned, hSelected]
  · exact List.forall_mem_cons.mpr ⟨fails_mono hMarks hFails, hRefresh.marked⟩

/-- A look at the deadline fails at most the headset that is routed, and that is the selected one. -/
theorem Consistent.bears_poll (h : Consistent order switch) (now : Nat) :
    switch.Bears (switch.poll now) (switch.pollSetbacks now) := by
  cases hListening : switch.tracker.listening with
  | false =>
    rw [Switch.poll, pollSetbacks, hListening]
    exact bears_of_same rfl rfl
  | true =>
    have hRunning : switch.phase ≠ .stopped := by
      intro hStopped
      simp [(h.stopped hStopped).1] at hListening
    rcases checkTimeout_cases h.sound now switch.host with
      hQuiet | ⟨headset, since, late, hLink, hFound, hLate⟩
    · rw [Switch.poll, pollSetbacks, hListening, hQuiet]
      exact bears_of_same rfl rfl
    · obtain ⟨_, routed, hAddress, hRouted⟩ := h.activating hLink
      have hSelected := h.selected_of_routed hRouted
      obtain rfl : routed = headset := by
        have hKnown := h.sound.find?_eq ((h.settled hRunning).headset_mem hSelected).1
        rw [hAddress, hFound] at hKnown
        exact (Option.some.inj hKnown).symm
      obtain ⟨hSteady, hUnspoiled, _, hFailed, _⟩ := h.yield hRunning hLink hFound late
      rw [poll_late hListening hLate, pollSetbacks, hListening, hLate]
      exact hSteady.bears_yielded hUnspoiled (pinned_unpin hSelected) (fails_of_mem hFailed)
        hSelected _ now

/-- An activation routes what is selected and selects nothing else unless that fails. -/
theorem Consistent.bears_engage (h : Consistent order switch) (now : Nat) :
    switch.Bears (switch.engage now).2 (switch.engageSetbacks now) := by
  have hTaken := activate_eq switch.route switch.host
  rw [Switch.engage, engageSetbacks]
  split
  · exact bears_of_same rfl rfl
  rename_i hRunning
  generalize switch.route.activate switch.host = taken at *
  obtain ⟨result, route, host⟩ := taken
  obtain ⟨_, hRouted, _⟩ := hTaken
  cases result with
  | error error => exact bears_of_same rfl rfl
  | ok =>
    have hPoised : ({ switch with phase := .activated, route, host } : Switch σ).Poised :=
      ⟨h.sound, (h.settled hRunning).congr rfl rfl rfl rfl, hRouted.symm ▸ h.pending⟩
    have hApplied := hPoised.bears_applyRoute now
    obtain ⟨_, hTracker⟩ := announce_eq
      (({ switch with phase := .activated, route, host } : Switch σ).applyRoute now) switch.view
    refine Bears.then_same ?_ (selector_announce _ _) (congrArg Tracker.failed hTracker)
    exact ⟨hApplied.free, hApplied.held, hApplied.marked⟩

theorem marks_engage (switch : Switch σ) (now : Nat) :
    ∀ address ∈ switch.tracker.failed, address ∈ (switch.engage now).2.tracker.failed := by
  rw [engage]
  split
  · exact fun _ hMem => hMem
  obtain ⟨result, route, host⟩ := switch.route.activate switch.host
  cases result with
  | error error => exact fun _ hMem => hMem
  | ok =>
    have hReroutes := (reroutes_applyRoute ({ switch with phase := .activated, route, host } :
      Switch σ) now).trans (reroutes_announce _ switch.view)
    exact hReroutes.steps.headsets.2.2

theorem Steady.disengage_frame (h : Steady order switch) :
    switch.disengage.selector = switch.selector ∧
      switch.disengage.tracker.failed = switch.tracker.failed := by
  obtain ⟨_, _, _, _, hFailed, _⟩ := h.deactivateRoute
  rw [disengage]
  split
  · exact ⟨rfl, rfl⟩
  · exact ⟨rfl, hFailed⟩

/-! ## What is there to be pinned -/

theorem mem_candidates_iff : device ∈ switch.candidates ↔
    (∃ headset ∈ switch.tracker.visible, .bluetoothHeadset headset = device) ∨
      switch.wired.device? = some device ∨
      (device = .earpiece ∧ Platform.hasEarpiece switch.host.platform = true) ∨
      device = .speakerphone := by
  cases hEarpiece : Platform.hasEarpiece switch.host.platform <;>
    simp [candidates, hEarpiece]

/-- Routing neither brings nor takes devices, as long as it leaves the earpiece alone. -/
theorem Reroutes.mem_candidates (h : before.Reroutes after)
    (hEarpiece : device = .earpiece → KeepsEarpiece σ) :
    device ∈ after.candidates ↔ device ∈ before.candidates := by
  obtain ⟨hListening, hHeadsets, _⟩ := h.steps.headsets
  have hVisible : after.tracker.visible = before.tracker.visible := by
    rw [Tracker.visible, Tracker.visible, hListening, hHeadsets]
  have hKept : (device = .earpiece ∧ Platform.hasEarpiece after.host.platform = true) ↔
      (device = .earpiece ∧ Platform.hasEarpiece before.host.platform = true) := by
    refine and_congr_right fun hDevice => ?_
    rw [h.steps.hasEarpiece (hEarpiece hDevice)]
  rw [mem_candidates_iff, mem_candidates_iff, hVisible, h.wired, hKept]

def Offers (device : Device) (switch : Switch σ) : Prop :=
  device ∈ switch.selector.available ↔ device ∈ switch.candidates

theorem offers_recompute (switch : Switch σ) (rejected : List Device)
    (hEarpiece : device = .earpiece → KeepsEarpiece σ) : Offers device (switch.recompute rejected) := by
  have hAvailable : (switch.recompute rejected).selector.available =
      switch.selector.order.arrange switch.candidates := Selector.available_recompute
  rw [Offers, hAvailable, PreferredOrder.mem_arrange]
  exact ((reroutes_recompute switch rejected).mem_candidates hEarpiece).symm

theorem Offers.reroute (h : Offers device before) (hReroutes : before.Reroutes after)
    (hSelector : after.selector = before.selector)
    (hEarpiece : device = .earpiece → KeepsEarpiece σ) : Offers device after := by
  rw [Offers, hSelector, hReroutes.mem_candidates hEarpiece]
  exact h

theorem Offers.routeWithin (h : Offers device switch)
    (hEarpiece : device = .earpiece → KeepsEarpiece σ) (tries : Nat) (rejected : List Device)
    (now : Nat) : Offers device (switch.routeWithin tries rejected now) := by
  induction tries generalizing switch rejected with
  | zero => exact h
  | succ tries ih =>
    have hOnce := reroutes_routeOnce switch now
    cases hResult : (switch.routeOnce now).1 with
    | ok =>
      rw [routeWithin_ok hResult]
      exact h.reroute hOnce rfl hEarpiece
    | error error =>
      cases hSelected : switch.selector.selected with
      | none =>
        have hNext := h.reroute hOnce rfl hEarpiece
        simpa [Switch.routeWithin, hSelected] using hNext
      | some chosen =>
        rw [routeWithin_error hResult hSelected]
        split
        · exact h.reroute (hOnce.trans (reroutes_write _ _)) rfl hEarpiece
        · exact ih (offers_recompute _ _ hEarpiece) _

theorem offers_refreshSince (switch : Switch σ) (view : List Device × Option Device) (now : Nat)
    (hEarpiece : device = .earpiece → KeepsEarpiece σ) :
    Offers device (switch.refreshSince view now) := by
  have hRouted : Offers device ((switch.recompute []).applyRoute now) :=
    (offers_recompute switch [] hEarpiece).routeWithin hEarpiece _ [] now
  exact hRouted.reroute (reroutes_announce _ view) (selector_announce _ view) hEarpiece

/-- After a refresh a device is offered if and only if it was there before. -/
theorem mem_available_refreshSince (switch : Switch σ) (view : List Device × Option Device)
    (now : Nat) (hEarpiece : device = .earpiece → KeepsEarpiece σ) :
    device ∈ (switch.refreshSince view now).selector.available ↔ device ∈ switch.candidates :=
  (offers_refreshSince switch view now hEarpiece).trans
    ((reroutes_refreshSince switch view now).mem_candidates hEarpiece)

end Switch

end CallAudio
