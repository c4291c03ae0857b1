import CallAudio.Proofs.Arrangement
import CallAudio.Proofs.Headsets
import CallAudio.Switch

/-! # A settled selection

A selection is settled if the available devices are those that the trackers know, the selected
device is one of them and did not fail, and without a pin it is the first such device. Selecting
anew settles the selection, whatever the trackers went through before.
-/

namespace CallAudio

namespace Selector

variable {selector : Selector} {candidates : List Device} {excluded : Device → Bool}

theorem order_revalidate (selector : Selector) (excluded : Device → Bool) :
    (selector.revalidate excluded).order = selector.order ∧
      (selector.revalidate excluded).available = selector.available := by
  rw [revalidate]
  split
  · exact ⟨rfl, rfl⟩
  split
  · exact ⟨rfl, rfl⟩
  split
  · exact ⟨rfl, rfl⟩
  split <;> exact ⟨rfl, rfl⟩

theorem order_recompute : (selector.recompute candidates excluded).order = selector.order :=
  (order_revalidate (selector.load candidates) excluded).1

theorem available_recompute :
    (selector.recompute candidates excluded).available = selector.order.arrange candidates :=
  (order_revalidate (selector.load candidates) excluded).2

theorem successor?_eq_some {heir : Device} (h : selector.successor? excluded = some heir) :
    heir ∈ selector.available ∧ excluded heir = false := by
  rw [successor?] at h
  have hFound := List.find?_some h
  simp only [Bool.and_eq_true, Bool.not_eq_true'] at hFound
  exact ⟨List.mem_of_find?_eq_some h, hFound.2⟩

/-- A pin that is left after the check is on an available device: the one it was on, or a
headset that is not excluded. -/
theorem revalidate_pinned (h : (selector.revalidate excluded).pinned = true) :
    ∃ device ∈ selector.available, (selector.revalidate excluded).selected = some device ∧
      (excluded device = false ∨ selector.pinned = true ∧ selector.selected = some device) := by
  rw [revalidate] at h ⊢
  split at h
  · rename_i hFree
    simp [h] at hFree
  rename_i hPinned
  rw [if_neg hPinned]
  split at h
  · cases h
  rename_i device hSelected
  simp only [hSelected]
  split at h
  · rename_i hMem
    rw [if_pos hMem]
    exact ⟨device, hMem, hSelected, .inr ⟨by simpa using hPinned, rfl⟩⟩
  rename_i hGone
  rw [if_neg hGone]
  split at h
  · rename_i heir hHeir
    split at hHeir
    · obtain ⟨hMem, hFree⟩ := successor?_eq_some hHeir
      exact ⟨heir, hMem, rfl, .inl hFree⟩
    · cases hHeir
  · cases h

theorem recompute_pinned (h : (selector.recompute candidates excluded).pinned = true) :
    ∃ device ∈ selector.order.arrange candidates,
      (selector.recompute candidates excluded).selected = some device ∧
      (excluded device = false ∨ selector.pinned = true ∧ selector.selected = some device) := by
  have hChecked : ((selector.load candidates).revalidate excluded).pinned = true := h
  obtain ⟨device, hMem, hSelected, hReason⟩ := revalidate_pinned hChecked
  refine ⟨device, hMem, ?_, hReason⟩
  rw [← hSelected]
  exact if_pos h

theorem order_unpin {device : Device} : (selector.unpin device).order = selector.order := by
  rw [unpin]
  split <;> rfl

theorem recompute_unpinned (h : (selector.recompute candidates excluded).pinned = false) :
    (selector.recompute candidates excluded).selected =
      bestDevice? excluded (selector.order.arrange candidates) := by
  have hAvailable : (selector.recompute candidates excluded).available =
      selector.order.arrange candidates := available_recompute
  rw [← hAvailable]
  exact if_neg (ne_true_of_eq_false h)

end Selector

namespace Switch

variable {σ : Type}

def fails (switch : Switch σ) (device : Device) : Bool :=
  device.address?.any (· ∈ switch.tracker.failed)

def roster (switch : Switch σ) (earpiece : Bool) : List Device :=
  switch.tracker.headsets.map .bluetoothHeadset ++ switch.wired.device?.toList ++
    (if earpiece then [.earpiece] else []) ++ [.speakerphone]

structure Settled (switch : Switch σ) : Prop where
  available : ∃ earpiece,
    switch.selector.available = switch.selector.order.arrange (switch.roster earpiece)
  selected : ∃ device ∈ switch.selector.available,
    switch.selector.selected = some device ∧ switch.fails device = false
  best : switch.selector.pinned = false →
    switch.selector.selected = switch.selector.available.find? (!switch.fails ·)

theorem fails_eq_false_iff {switch : Switch σ} {device : Device} :
    switch.fails device = false ↔
      ∀ address, device.address? = some address → address ∉ switch.tracker.failed := by
  cases device <;> simp [fails, Device.address?]

theorem Settled.speakerphone_mem {switch : Switch σ} (h : switch.Settled) :
    .speakerphone ∈ switch.selector.available := by
  obtain ⟨earpiece, hAvailable⟩ := h.available
  rw [hAvailable, PreferredOrder.mem_arrange]
  simp [roster]

theorem Settled.headset_mem {switch : Switch σ} (h : switch.Settled) {headset : Headset}
    (hSelected : switch.selector.selected = some (.bluetoothHeadset headset)) :
    headset ∈ switch.tracker.headsets ∧ headset.address ∉ switch.tracker.failed := by
  obtain ⟨earpiece, hAvailable⟩ := h.available
  obtain ⟨device, hMem, hDevice, hFails⟩ := h.selected
  obtain rfl : device = .bluetoothHeadset headset := by
    rw [hSelected] at hDevice
    exact (Option.some.inj hDevice).symm
  refine ⟨?_, fails_eq_false_iff.mp hFails _ rfl⟩
  rw [hAvailable, PreferredOrder.mem_arrange] at hMem
  cases hWired : switch.wired.headset <;> cases earpiece <;>
    simpa [roster, WiredTracker.device?, hWired] using hMem

/-- Devices rejected just now are marked as failed, so they need no mention of their own. -/
theorem excludes_eq_fails {switch : Switch σ} {rejected : List Device}
    (h : switch.tracker.Sound) (hRejected : ∀ device ∈ rejected, switch.fails device = true) :
    switch.excludes rejected = switch.fails := by
  funext device
  have hGate : (switch.tracker.listening && switch.fails device) = switch.fails device := by
    cases hListening : switch.tracker.listening with
    | true => rfl
    | false =>
      have hNone := h.failed_nil (h.silent hListening)
      cases device <;> simp [fails, hNone, Device.address?]
  change (decide (device ∈ rejected) || (switch.tracker.listening && switch.fails device)) = _
  rw [hGate]
  by_cases hMem : device ∈ rejected
  · simp [hMem, hRejected device hMem]
  · simp [hMem]

theorem filter_roster (switch : Switch σ) (earpiece : Bool) :
    (switch.roster earpiece).filter (·.kind = .bluetoothHeadset) =
      switch.tracker.headsets.map .bluetoothHeadset := by
  have hHeadsets : (switch.tracker.headsets.map Device.bluetoothHeadset).filter
      (·.kind = .bluetoothHeadset) = switch.tracker.headsets.map .bluetoothHeadset := by
    simp [List.filter_map, Function.comp_def, Device.kind]
  have hJack : switch.wired.device?.toList.filter (·.kind = .bluetoothHeadset) = [] := by
    rw [WiredTracker.device?]
    cases switch.wired.headset <;> rfl
  rw [roster, List.filter_append, List.filter_append, List.filter_append, hHeadsets, hJack]
  cases earpiece <;> simp [Device.kind]

/-- The headsets that are available are the connected ones, in the same order. -/
theorem Settled.find?_headset {switch : Switch σ} (h : switch.Settled) :
    switch.selector.available.find? (fun device => device.isBluetooth && !switch.fails device) =
      (switch.tracker.headsets.find? (·.address ∉ switch.tracker.failed)).map
        .bluetoothHeadset := by
  obtain ⟨earpiece, hAvailable⟩ := h.available
  have hKind : (fun device : Device => device.isBluetooth && !switch.fails device) =
      fun device => decide (decide (device.kind = .bluetoothHeadset) = true ∧
        (!switch.fails device) = true) := by
    funext device
    cases device <;> simp [Device.isBluetooth, Device.kind]
  rw [hKind, ← List.find?_filter, hAvailable, PreferredOrder.filter_arrange, filter_roster,
    find?_eraseDups, List.find?_map]
  congr 2
  funext headset
  simp [fails, Device.address?]

variable {before after : Switch σ}

theorem Settled.congr (h : before.Settled) (hSelector : after.selector = before.selector)
    (hWired : after.wired = before.wired) (hHeadsets : after.tracker.headsets = before.tracker.headsets)
    (hFailed : after.tracker.failed = before.tracker.failed) : after.Settled := by
  have hFails : after.fails = before.fails := by
    funext device
    rw [fails, fails, hFailed]
  have hRoster : after.roster = before.roster := by
    funext earpiece
    rw [roster, roster, hHeadsets, hWired]
  obtain ⟨hAvailable, hSelected, hBest⟩ := h
  rw [← hSelector, ← hRoster] at hAvailable
  rw [← hSelector, ← hFails] at hSelected hBest
  exact ⟨hAvailable, hSelected, hBest⟩

def unfailed (switch : Switch σ) : List Headset :=
  switch.tracker.headsets.filter (·.address ∉ switch.tracker.failed)

theorem mem_unfailed {switch : Switch σ} {headset : Headset} :
    headset ∈ switch.unfailed ↔
      headset ∈ switch.tracker.headsets ∧ headset.address ∉ switch.tracker.failed := by
  simp [unfailed]

/-- While no mark is lost, one mark more is one headset less to try. -/
theorem unfailed_lt_of_marked {headset : Headset} (hMem : headset ∈ before.unfailed)
    (hHeadsets : after.tracker.headsets = before.tracker.headsets)
    (hKept : ∀ address ∈ before.tracker.failed, address ∈ after.tracker.failed)
    (hMarked : headset.address ∈ after.tracker.failed) :
    after.unfailed.length < before.unfailed.length := by
  have hFewer : after.unfailed = before.unfailed.filter (·.address ∉ after.tracker.failed) := by
    rw [unfailed, unfailed, List.filter_filter, hHeadsets]
    refine List.filter_congr fun other _ => ?_
    have hStill := hKept other.address
    rw [Bool.eq_iff_iff]
    simp only [Bool.and_eq_true, decide_eq_true_eq]
    tauto
  rw [hFewer, List.length_filter_lt_length_iff_exists]
  exact ⟨headset, hMem, by simpa using hMarked⟩

theorem unfailed_lt {headset : Headset} (hMem : headset ∈ before.unfailed)
    (hHeadsets : after.tracker.headsets = before.tracker.headsets)
    (hFailed : after.tracker.failed = (before.tracker.markFailed headset.address).failed) :
    after.unfailed.length < before.unfailed.length := by
  refine unfailed_lt_of_marked hMem hHeadsets (fun address hOld => ?_) ?_
  all_goals rw [hFailed, Tracker.mem_markFailed_iff]
  · exact .inr hOld
  · exact .inl rfl

theorem fails_of_mem {switch : Switch σ} {headset : Headset}
    (h : headset.address ∈ switch.tracker.failed) :
    switch.fails (.bluetoothHeadset headset) = true := by
  simpa [fails, Device.address?] using h

theorem fails_mono {device : Device}
    (h : ∀ address ∈ before.tracker.failed, address ∈ after.tracker.failed)
    (hFails : before.fails device = true) : after.fails device = true := by
  cases device with
  | bluetoothHeadset headset => exact fails_of_mem (h _ (by simpa [fails, Device.address?] using hFails))
  | _ => cases hFails

theorem pinned_unpin {switch : Switch σ} {device : Device}
    (h : switch.selector.selected = some device) :
    (switch.unpin device).selector.pinned = false := by
  rw [unpin, Selector.unpin, if_pos h]
  rfl

variable [Platform σ]

theorem candidates_eq_roster {switch : Switch σ} (h : switch.tracker.Sound) :
    switch.candidates = switch.roster (Platform.hasEarpiece switch.host.platform) := by
  have hVisible : switch.tracker.visible = switch.tracker.headsets := by
    rw [Tracker.visible]
    split
    · rfl
    · rename_i hSilent
      exact (h.silent (by simpa using hSilent)).symm
  rw [candidates, hVisible, roster]

/-- Selecting anew settles the selection, provided that a pinned device did not fail. -/
theorem settled_recompute {switch : Switch σ} {rejected : List Device}
    (hSound : switch.tracker.Sound)
    (hPin : switch.selector.pinned = true → ∀ device, switch.selector.selected = some device →
      switch.fails device = false)
    (hRejected : ∀ device ∈ rejected, switch.fails device = true) :
    (switch.recompute rejected).Settled := by
  have hExcluded := excludes_eq_fails hSound hRejected
  have hAvailable : (switch.recompute rejected).selector.available =
      switch.selector.order.arrange switch.candidates := Selector.available_recompute
  have hSpeaker : ∃ device ∈ switch.selector.order.arrange switch.candidates,
      switch.excludes rejected device = false := by
    refine ⟨.speakerphone, PreferredOrder.mem_arrange.mpr (by simp [candidates]), ?_⟩
    rw [hExcluded]
    rfl
  have hBest : (switch.recompute rejected).selector.pinned = false →
      (switch.recompute rejected).selector.selected =
        (switch.selector.order.arrange switch.candidates).find? (!switch.fails ·) := by
    intro hFree
    rw [← hExcluded, ← bestDevice?_eq_find? hSpeaker]
    exact Selector.recompute_unpinned hFree
  refine ⟨⟨Platform.hasEarpiece switch.host.platform, ?_⟩, ?_, ?_⟩
  · have hOrder : (switch.recompute rejected).selector.order = switch.selector.order :=
      Selector.order_recompute
    rw [hAvailable, candidates_eq_roster hSound, hOrder]
    rfl
  · rw [hAvailable]
    cases hPinned : (switch.recompute rejected).selector.pinned with
    | true =>
      obtain ⟨device, hMem, hSelected, hReason⟩ := Selector.recompute_pinned hPinned
      refine ⟨device, hMem, hSelected, ?_⟩
      obtain hFree | ⟨hBefore, hSame⟩ := hReason
      · rwa [hExcluded] at hFree
      · exact hPin hBefore device hSame
    | false =>
      rw [hBest hPinned]
      obtain ⟨device, hMem, hFree⟩ := hSpeaker
      have hFound : ((switch.selector.order.arrange switch.candidates).find?
          (!switch.fails ·)).isSome := by
        rw [List.find?_isSome]
        exact ⟨device, hMem, by simp [← hExcluded, hFree]⟩
      obtain ⟨best, hBestFound⟩ := Option.isSome_iff_exists.mp hFound
      have hBestFree : switch.fails best = false := by simpa using List.find?_some hBestFound
      exact ⟨best, List.mem_of_find?_eq_some hBestFound, hBestFound, hBestFree⟩
  · rw [hAvailable]
    exact hBest

end Switch

end CallAudio
