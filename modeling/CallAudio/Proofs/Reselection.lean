import CallAudio.Proofs.Selection

/-! # Selecting anew

Selecting anew from the same devices changes nothing, and all that matters of the devices is which
there are of each kind and in which order. A change is looked for only after the check of the pin.
So a pin that passes to another headset goes unreported, and it is the only change that does.
-/

namespace CallAudio

/-- The lists hold the same devices of each kind in the same order, repetitions apart. -/
def SameByKind (devices others : List Device) : Prop :=
  ∀ kind, (devices.filter (·.kind = kind)).eraseDups = (others.filter (·.kind = kind)).eraseDups

theorem PreferredOrder.arrange_eq_iff {order : PreferredOrder} {devices others : List Device} :
    order.arrange devices = order.arrange others ↔ SameByKind devices others := by
  constructor
  · intro hSame kind
    rw [← filter_arrange kind, hSame, filter_arrange kind]
  · intro hSame
    exact congrArg order.kinds.flatMap (funext hSame)

namespace Selector

variable {selector : Selector} {candidates others : List Device} {excluded : Device → Bool}

theorem recompute_of_settled (hAvailable : selector.available = selector.order.arrange candidates)
    (hKept : selector.revalidate excluded = selector)
    (hChoice : selector.choice excluded = selector.selected) :
    selector.recompute candidates excluded = selector := by
  have hLoaded : selector.load candidates = selector := by rw [load, ← hAvailable]
  rw [recompute, hLoaded, hKept, hChoice]

theorem reselects_of_settled (hAvailable : selector.available = selector.order.arrange candidates)
    (hKept : selector.revalidate excluded = selector)
    (hChoice : selector.choice excluded = selector.selected) :
    selector.reselects candidates excluded = false := by
  have hLoaded : selector.load candidates = selector := by rw [load, ← hAvailable]
  rw [reselects, hLoaded, hKept, hChoice]
  simp

theorem revalidate_free (h : selector.pinned = false) : selector.revalidate excluded = selector := by
  simp [revalidate, h]

theorem revalidate_mem {device : Device} (hSelected : selector.selected = some device)
    (hMem : device ∈ selector.available) : selector.revalidate excluded = selector := by
  simp [revalidate, hSelected, hMem]

/-- Once selected anew, the pin passes its check and the choice is what is selected. -/
theorem settled_of_recompute (selector : Selector) (candidates : List Device)
    (excluded : Device → Bool) :
    let after := selector.recompute candidates excluded
    after.available = after.order.arrange candidates ∧ after.revalidate excluded = after ∧
      after.choice excluded = after.selected := by
  intro after
  have hAvailable : after.available = selector.order.arrange candidates := available_recompute
  have hOrder : after.order = selector.order := order_recompute
  refine ⟨by rw [hAvailable, hOrder], ?_⟩
  cases hPinned : after.pinned with
  | false =>
    refine ⟨revalidate_free hPinned, ?_⟩
    have hBest : after.selected = bestDevice? excluded (selector.order.arrange candidates) :=
      recompute_unpinned hPinned
    rw [hBest, ← hAvailable]
    exact if_neg (ne_true_of_eq_false hPinned)
  | true =>
    obtain ⟨device, hMem, hSelected, _⟩ := recompute_pinned hPinned
    refine ⟨revalidate_mem hSelected ?_, if_pos hPinned⟩
    rwa [← hAvailable] at hMem

theorem recompute_recompute :
    (selector.recompute candidates excluded).recompute candidates excluded =
      selector.recompute candidates excluded := by
  obtain ⟨hAvailable, hKept, hChoice⟩ := settled_of_recompute selector candidates excluded
  exact recompute_of_settled hAvailable hKept hChoice

/-- Selecting anew a second time reports no change and makes none. From whatever state and whatever is
excluded, it does not matter how the devices of the several kinds are mixed. -/
theorem recompute_stable (selector : Selector) (candidates : List Device)
    (excluded : Device → Bool) :
    let after := selector.recompute candidates excluded
    (after.reselects candidates excluded = false ∧ after.recompute candidates excluded = after) ∧
      ∀ others, SameByKind candidates others →
        selector.recompute others excluded = after ∧
          selector.reselects others excluded = selector.reselects candidates excluded := by
  intro after
  obtain ⟨hAvailable, hKept, hChoice⟩ := settled_of_recompute selector candidates excluded
  refine ⟨⟨reselects_of_settled hAvailable hKept hChoice, recompute_recompute⟩, ?_⟩
  intro others hSame
  have hArranged : selector.order.arrange candidates = selector.order.arrange others :=
    PreferredOrder.arrange_eq_iff.mpr hSame
  have hLoaded : selector.load others = selector.load candidates := by rw [load, load, hArranged]
  constructor
  · show selector.recompute others excluded = selector.recompute candidates excluded
    rw [recompute, recompute, hLoaded]
  · rw [reselects, reselects, hLoaded]

/-- A pinned headset that is gone and excluded besides, with the devices mixed in two ways. -/
theorem recompute_stable_shuffled :
    let buds := Device.bluetoothHeadset ⟨"Buds", "AA"⟩
    let car := Device.bluetoothHeadset ⟨"Car", "BB"⟩
    let pods := Device.bluetoothHeadset ⟨"Pods", "CC"⟩
    let candidates := [car, pods, .wiredHeadset "Jack", .earpiece, .speakerphone]
    let others := [.speakerphone, car, .wiredHeadset "Jack", car, .earpiece, pods, .speakerphone]
    let selector : Selector := ⟨.usual, [buds, car, .speakerphone], some buds, true⟩
    let excluded := fun device => decide (device = car)
    (selector.recompute others excluded).selected = some pods ∧
      selector.recompute others excluded = selector.recompute candidates excluded := by
  intro buds car pods candidates others selector excluded
  have hSame : SameByKind candidates others := by
    intro kind
    cases kind <;> decide
  exact ⟨by decide, ((recompute_stable selector candidates excluded).2 others hSame).1⟩

/-- A pinned headset is gone, and there is another one that its pin can pass to. -/
def PassesPin (selector : Selector) (candidates : List Device) (excluded : Device → Bool) : Prop :=
  selector.pinned = true ∧ ∃ headset, selector.selected = some (.bluetoothHeadset headset) ∧
    .bluetoothHeadset headset ∉ candidates ∧
    ∃ heir, .bluetoothHeadset heir ∈ candidates ∧ excluded (.bluetoothHeadset heir) = false

theorem recompute_passed {device heir : Device} (hPinned : selector.pinned = true)
    (hSelected : selector.selected = some device)
    (hGone : device ∉ selector.order.arrange candidates) (hHeadset : device.isBluetooth = true)
    (hHeir : (selector.load candidates).successor? excluded = some heir) :
    (selector.recompute candidates excluded).pinned = true ∧
      (selector.recompute candidates excluded).selected = some heir := by
  have hLoaded : device ∉ (selector.load candidates).available := hGone
  have hStill : (selector.load candidates).pinned = true := hPinned
  have hHeld : (selector.load candidates).selected = some device := hSelected
  simp [recompute, revalidate, choice, hStill, hHeld, hLoaded, hHeadset, hHeir]

theorem recompute_dropped {device : Device} (hPinned : selector.pinned = true)
    (hSelected : selector.selected = some device)
    (hGone : device ∉ selector.order.arrange candidates)
    (hNone : device.isBluetooth = true → (selector.load candidates).successor? excluded = none) :
    (selector.recompute candidates excluded).pinned = false := by
  have hLoaded : device ∉ (selector.load candidates).available := hGone
  have hStill : (selector.load candidates).pinned = true := hPinned
  have hHeld : (selector.load candidates).selected = some device := hSelected
  cases hHeadset : device.isBluetooth with
  | true => simp [recompute, revalidate, hStill, hHeld, hLoaded, hHeadset, hNone hHeadset]
  | false => simp [recompute, revalidate, hStill, hHeld, hLoaded, hHeadset]

/-- A headset that is there and not excluded is enough for the pin to pass on. -/
theorem successor?_load_isSome_iff : ((selector.load candidates).successor? excluded).isSome ↔
    ∃ heir, .bluetoothHeadset heir ∈ candidates ∧ excluded (.bluetoothHeadset heir) = false := by
  rw [successor?, List.find?_isSome]
  constructor
  · rintro ⟨device, hMem, hFound⟩
    simp only [Bool.and_eq_true, Bool.not_eq_true'] at hFound
    obtain ⟨heir, rfl⟩ := Device.isBluetooth_iff.mp hFound.1
    exact ⟨heir, PreferredOrder.mem_arrange.mp hMem, hFound.2⟩
  · rintro ⟨heir, hMem, hFree⟩
    refine ⟨.bluetoothHeadset heir, PreferredOrder.mem_arrange.mpr hMem, ?_⟩
    simp [hFree, Device.isBluetooth]

/-- While there is a pin, the check of the pin is all that selects. -/
theorem reselects_of_pinned (h : (selector.recompute candidates excluded).pinned = true) :
    selector.reselects candidates excluded = false := by
  have hPinned : ((selector.load candidates).revalidate excluded).pinned = true := h
  have hChoice : ((selector.load candidates).revalidate excluded).choice excluded =
      ((selector.load candidates).revalidate excluded).selected := if_pos hPinned
  rw [reselects, hChoice]
  simp

theorem PassesPin.passed (h : selector.PassesPin candidates excluded) :
    (selector.recompute candidates excluded).pinned = true ∧
      (selector.recompute candidates excluded).selected ≠ selector.selected := by
  obtain ⟨hPinned, headset, hSelected, hGone, hOther⟩ := h
  obtain ⟨heir, hHeir⟩ := Option.isSome_iff_exists.mp (successor?_load_isSome_iff.mpr hOther)
  have hLost : .bluetoothHeadset headset ∉ selector.order.arrange candidates :=
    fun hMem => hGone (PreferredOrder.mem_arrange.mp hMem)
  obtain ⟨hStill, hPassed⟩ := recompute_passed hPinned hSelected hLost rfl hHeir
  refine ⟨hStill, fun hSame => hLost ?_⟩
  rw [hPassed, hSelected, Option.some_inj] at hSame
  exact hSame ▸ (successor?_eq_some hHeir).1

/-- The check of the pin changes the selection only by passing the pin on. -/
theorem selected_revalidate (h : ¬ selector.PassesPin candidates excluded) :
    ((selector.load candidates).revalidate excluded).selected = selector.selected := by
  rw [revalidate]
  split
  · rfl
  rename_i hPinned
  split
  · rfl
  rename_i device hSelected
  split
  · rfl
  rename_i hGone
  split
  · rename_i heir hHeir
    split at hHeir
    · rename_i hHeadset
      obtain ⟨headset, rfl⟩ := Device.isBluetooth_iff.mp hHeadset
      refine absurd ⟨by simpa [load] using hPinned, headset, hSelected, ?_, ?_⟩ h
      · exact fun hMem => hGone (PreferredOrder.mem_arrange.mpr hMem)
      · exact successor?_load_isSome_iff.mp (Option.isSome_of_eq_some hHeir)
    · cases hHeir
  · rfl

/-- Whatever the selector went through, a change that is reported took place. What took place is
reported exactly if it was not a pin that passed to another headset. -/
theorem change_reported_iff (selector : Selector) (candidates : List Device)
    (excluded : Device → Bool) :
    let reported := selector.reselects candidates excluded = true
    let changed := (selector.recompute candidates excluded).selected ≠ selector.selected
    ((reported ↔ changed) ↔ ¬ selector.PassesPin candidates excluded) ∧ (reported → changed) := by
  intro reported changed
  by_cases hPasses : selector.PassesPin candidates excluded
  · obtain ⟨hPinned, hChanged⟩ := hPasses.passed
    have hSilent : ¬ reported := by simp [reported, reselects_of_pinned hPinned]
    refine ⟨⟨fun hTruthful => ?_, fun hKept => absurd hPasses hKept⟩, fun _ => hChanged⟩
    exact absurd (hTruthful.mpr hChanged) hSilent
  · have hTruthful : reported ↔ changed := by
      have hChoice : (selector.recompute candidates excluded).selected =
        ((selector.load candidates).revalidate excluded).choice excluded := rfl
      simp only [reported, changed, reselects, hChoice, selected_revalidate hPasses,
        decide_eq_true_eq]
    exact ⟨⟨fun _ => hPasses, fun _ => hTruthful⟩, hTruthful.mp⟩

/-- The pin of a headset that went away passes to the one that is left, and no change is reported. -/
theorem passed_pin_unreported :
    let buds := Device.bluetoothHeadset ⟨"Buds", "AA"⟩
    let car := Device.bluetoothHeadset ⟨"Car", "BB"⟩
    let selector := ((empty .usual).recompute [buds, car, .earpiece, .speakerphone]
      fun _ => false).pin buds
    selector.selected = some buds ∧
      (selector.recompute [car, .earpiece, .speakerphone] fun _ => false).selected = some car ∧
      (selector.reselects [car, .earpiece, .speakerphone] fun _ => false) = false := by
  decide

end Selector

end CallAudio
