import CallAudio.Proofs.LinkSteps
import Mathlib.Data.List.Nodup

/-! # Sound trackers

A sound tracker has one entry for each address, and only addresses of its headsets are linked or
marked as failed. Events and routing keep a tracker sound.
-/

namespace CallAudio

namespace Tracker

def addresses (tracker : Tracker) : List String := tracker.headsets.map (·.address)

/-- The tracker knows of nothing but connected headsets, and of none while it does not listen. -/
structure Sound (tracker : Tracker) : Prop where
  distinct : tracker.addresses.Nodup
  linked : ∀ address, tracker.link.address? = some address → address ∈ tracker.addresses
  marked : ∀ address ∈ tracker.failed, address ∈ tracker.addresses
  silent : tracker.listening = false → tracker.headsets = []

theorem sound_idle (timeout : Nat) : (idle timeout).Sound :=
  ⟨.nil, by simp [idle, Link.address?], by simp [idle], fun _ => rfl⟩

theorem mem_addresses {tracker : Tracker} {headset : Headset} (h : headset ∈ tracker.headsets) :
    headset.address ∈ tracker.addresses := List.mem_map_of_mem h

theorem isSome_find?_iff {tracker : Tracker} {address : String} :
    (tracker.find? address).isSome ↔ address ∈ tracker.addresses := by
  simp [find?, addresses]

theorem mem_addresses_of_found {tracker : Tracker} {address : String}
    (h : ¬(tracker.find? address).isNone) : address ∈ tracker.addresses :=
  isSome_find?_iff.mp (by simpa [Option.isSome_iff_ne_none] using h)

theorem find?_eq_none_iff {tracker : Tracker} {address : String} :
    tracker.find? address = none ↔ address ∉ tracker.addresses := by
  rw [← isSome_find?_iff, Option.not_isSome_iff_eq_none]

theorem mem_of_find? {tracker : Tracker} {address : String} {headset : Headset}
    (h : tracker.find? address = some headset) :
    headset ∈ tracker.headsets ∧ headset.address = address :=
  ⟨List.mem_of_find?_eq_some h, by simpa using List.find?_some h⟩

theorem Sound.find?_eq {tracker : Tracker} (h : tracker.Sound) {headset : Headset}
    (hMem : headset ∈ tracker.headsets) : tracker.find? headset.address = some headset := by
  cases hFound : tracker.find? headset.address with
  | none => exact absurd (mem_addresses hMem) (find?_eq_none_iff.mp hFound)
  | some found =>
    obtain ⟨hFoundMem, hAddress⟩ := mem_of_find? hFound
    exact congrArg some (List.inj_on_of_nodup_map h.distinct hFoundMem hMem hAddress)

theorem Sound.link_idle {tracker : Tracker} (h : tracker.Sound) (hSilent : tracker.headsets = []) :
    tracker.link = .idle := by
  cases hLink : tracker.link with
  | idle => rfl
  | activating address since =>
    have hMem := h.linked address (by rw [hLink]; rfl)
    simp [addresses, hSilent] at hMem
  | active address =>
    have hMem := h.linked address (by rw [hLink]; rfl)
    simp [addresses, hSilent] at hMem

theorem Sound.failed_nil {tracker : Tracker} (h : tracker.Sound) (hSilent : tracker.headsets = []) :
    tracker.failed = [] := by
  rw [List.eq_nil_iff_forall_not_mem]
  intro address hMem
  have hMem := h.marked address hMem
  simp [addresses, hSilent] at hMem

/-- A tracker that does not listen knows nothing. -/
theorem Sound.eq_idle {tracker : Tracker} (h : tracker.Sound) (hDeaf : tracker.listening = false) :
    tracker = .idle tracker.timeout := by
  have hNone := h.silent hDeaf
  have hIdle := h.link_idle hNone
  have hClear := h.failed_nil hNone
  obtain ⟨listening, headsets, link, failed, timeout⟩ := tracker
  simp only at hDeaf hNone hIdle hClear
  subst hDeaf hNone hIdle hClear
  rfl

theorem getD_listening? (tracker : Tracker) : tracker.listening?.getD tracker = tracker := by
  rw [listening?]
  split <;> rfl

/-- A tracker that does not listen has no link to close. -/
theorem Sound.getD_unlinked {tracker : Tracker} (h : tracker.Sound) :
    (tracker.listening?.map ({ · with link := .idle })).getD tracker =
      { tracker with link := .idle } := by
  rw [listening?]
  split
  · rfl
  · rename_i hDeaf
    rw [← h.link_idle (h.silent (by simpa using hDeaf))]
    rfl

theorem address?_markFailed (tracker : Tracker) (address : String) :
    (tracker.markFailed address).link.address? = tracker.link.address? ∨
      (tracker.markFailed address).link = .idle := by
  rw [markFailed]
  split
  · exact .inr rfl
  · exact .inl rfl

theorem mem_markFailed_iff {tracker : Tracker} {address other : String} :
    other ∈ (tracker.markFailed address).failed ↔ other = address ∨ other ∈ tracker.failed := by
  by_cases h : address ∈ tracker.failed
  · simp only [markFailed, if_pos h]
    exact ⟨.inr, by rintro (rfl | hMem) <;> assumption⟩
  · simp [markFailed, h]

theorem Sound.markFailed {tracker : Tracker} (h : tracker.Sound) {address : String}
    (hKnown : address ∈ tracker.addresses) : (tracker.markFailed address).Sound where
  distinct := h.distinct
  linked other hOther := by
    obtain hSame | hIdle := address?_markFailed tracker address
    · exact h.linked other (hSame ▸ hOther)
    · rw [hIdle] at hOther
      cases hOther
  marked other hMem := by
    obtain rfl | hMem := mem_markFailed_iff.mp hMem
    · exact hKnown
    · exact h.marked other hMem
  silent := h.silent

theorem Sound.unlinked {tracker : Tracker} (h : tracker.Sound) :
    ({ tracker with link := .idle } : Tracker).Sound :=
  ⟨h.distinct, by simp [Link.address?], h.marked, h.silent⟩

/-- Without a headset's failure mark and its entry nothing is said of it any more. -/
theorem mem_forget_iff {tracker : Tracker} {address other : String} :
    other ∈ (tracker.forget address).map (·.address) ↔
      other ∈ tracker.addresses ∧ other ≠ address := by
  simp only [forget, addresses, List.mem_map, List.mem_filter, decide_eq_true_eq]
  constructor
  · rintro ⟨headset, ⟨hMem, hOther⟩, rfl⟩
    exact ⟨⟨headset, hMem, rfl⟩, hOther⟩
  · rintro ⟨⟨headset, hMem, rfl⟩, hOther⟩
    exact ⟨headset, ⟨hMem, hOther⟩, rfl⟩

theorem mem_clearFailure_iff {tracker : Tracker} {address other : String} :
    other ∈ (tracker.clearFailure address).failed ↔ other ∈ tracker.failed ∧ other ≠ address := by
  simp [clearFailure]

theorem Sound.clearFailure {tracker : Tracker} (h : tracker.Sound) (address : String) :
    (tracker.clearFailure address).Sound :=
  ⟨h.distinct, h.linked, fun other hMem => h.marked other (mem_clearFailure_iff.mp hMem).1,
    h.silent⟩

theorem forgive_eq (tracker : Tracker) (device : Device) :
    tracker.forgive device = tracker ∨
      ∃ address, tracker.forgive device = tracker.clearFailure address := by
  rw [forgive]
  split
  · split
    · exact .inr ⟨_, rfl⟩
    · exact .inl rfl
  · exact .inl rfl

theorem Sound.forgive {tracker : Tracker} (h : tracker.Sound) (device : Device) :
    (tracker.forgive device).Sound := by
  rcases forgive_eq tracker device with hSame | ⟨address, hClear⟩
  · rwa [hSame]
  · rw [hClear]
    exact h.clearFailure address

theorem Sound.not_mem_forgive {tracker : Tracker} (h : tracker.Sound) {device : Device}
    {address : String} (hAddress : device.address? = some address) :
    address ∉ (tracker.forgive device).failed := by
  simp only [Tracker.forgive, hAddress]
  split
  · exact fun hMem => (mem_clearFailure_iff.mp hMem).2 rfl
  · rename_i hDeaf
    rw [h.failed_nil (h.silent (by simpa using hDeaf))]
    exact List.not_mem_nil

theorem Sound.connected {tracker : Tracker} (h : tracker.Sound) (hListening : tracker.listening)
    (headset : Headset) : (tracker.apply (.connected headset)).Sound := by
  have hAddress : ∀ other, other ∈ (tracker.apply (.connected headset)).addresses ↔
      other = headset.address ∨ other ∈ tracker.addresses ∧ other ≠ headset.address := by
    intro other
    rw [← mem_forget_iff]
    exact List.mem_cons
  refine ⟨?_, ?_, ?_, ?_⟩
  · refine List.nodup_cons.mpr ⟨fun hMem => (mem_forget_iff.mp hMem).2 rfl, ?_⟩
    exact h.distinct.sublist (List.filter_sublist.map _)
  · intro other hLinked
    rw [hAddress]
    by_cases hSame : other = headset.address
    · exact .inl hSame
    · exact .inr ⟨h.linked other hLinked, hSame⟩
  · intro other hMem
    obtain ⟨hFailed, hOther⟩ := mem_clearFailure_iff.mp hMem
    exact (hAddress other).mpr (.inr ⟨h.marked other hFailed, hOther⟩)
  · intro hSilent
    exact absurd (hListening.symm.trans hSilent) (by decide)

theorem Sound.disconnected {tracker : Tracker} (h : tracker.Sound) (address : String) :
    (tracker.apply (.disconnected address)).Sound := by
  rw [apply]
  split
  · exact h
  refine ⟨h.distinct.sublist (List.filter_sublist.map _), ?_, ?_, ?_⟩
  · intro other hLinked
    simp only at hLinked
    split at hLinked
    · cases hLinked
    · rename_i hKept
      refine mem_forget_iff.mpr ⟨h.linked other hLinked, ?_⟩
      rintro rfl
      exact hKept hLinked
  · intro other hMem
    obtain ⟨hFailed, hOther⟩ := mem_clearFailure_iff.mp hMem
    exact mem_forget_iff.mpr ⟨h.marked other hFailed, hOther⟩
  · intro hSilent
    simp [forget, h.silent hSilent]

theorem Sound.apply {tracker : Tracker} (h : tracker.Sound) (hListening : tracker.listening)
    (event : BluetoothEvent) : (tracker.apply event).Sound := by
  cases event with
  | connected headset => exact h.connected hListening headset
  | disconnected address => exact h.disconnected address
  | audioConnected address =>
    rw [Tracker.apply]
    split
    · exact h
    · rename_i hFound
      refine ⟨h.distinct, ?_, h.marked, h.silent⟩
      rintro other ⟨⟩
      exact mem_addresses_of_found hFound
  | audioDisconnected address =>
    rw [Tracker.apply]
    split
    · exact h
    by_cases hActive : tracker.link = .active address
    · rw [if_pos hActive]
      exact h.unlinked
    · rw [if_neg hActive]
      exact h
  | audioFailed address =>
    rw [Tracker.apply]
    split
    · exact h
    · rename_i hFound
      exact h.markFailed (mem_addresses_of_found hFound)

end Tracker

variable {σ : Type} [Platform σ] {before after : Tracker × Host σ}

/-- Routing neither finds nor loses headsets and forgets no failure. -/
theorem LinkStep.headsets (h : LinkStep before after) :
    after.1.listening = before.1.listening ∧ after.1.headsets = before.1.headsets ∧
      ∀ address ∈ before.1.failed, address ∈ after.1.failed := by
  cases h with
  | refuse tracker host address => exact ⟨rfl, rfl, fun _ h => Tracker.mem_markFailed_iff.mpr (.inr h)⟩
  | expire tracker host address => exact ⟨rfl, rfl, fun _ h => Tracker.mem_markFailed_iff.mpr (.inr h)⟩
  | _ => exact ⟨rfl, rfl, fun _ h => h⟩

theorem LinkStep.sound (h : LinkStep before after) (hSound : before.1.Sound) : after.1.Sound := by
  cases h with
  | close => exact hSound.unlinked
  | «open» tracker host address now _ hKnown =>
    refine ⟨hSound.distinct, ?_, hSound.marked, hSound.silent⟩
    rintro other ⟨⟩
    exact Tracker.isSome_find?_iff.mp hKnown
  | refuse tracker host address _ _ hKnown =>
    exact hSound.markFailed (Tracker.isSome_find?_iff.mp hKnown)
  | expire tracker host address since hPending =>
    exact hSound.markFailed (hSound.linked address (by rw [hPending]; rfl))
  | _ => exact hSound

theorem LinkSteps.headsets (h : LinkSteps before after) :
    after.1.listening = before.1.listening ∧ after.1.headsets = before.1.headsets ∧
      ∀ address ∈ before.1.failed, address ∈ after.1.failed := by
  induction h with
  | refl => exact ⟨rfl, rfl, fun _ h => h⟩
  | tail _ hLast ih =>
    obtain ⟨hListening, hHeadsets, hFailed⟩ := hLast.headsets
    exact ⟨hListening.trans ih.1, hHeadsets.trans ih.2.1,
      fun address hMem => hFailed address (ih.2.2 address hMem)⟩

theorem LinkSteps.sound (h : LinkSteps before after) (hSound : before.1.Sound) : after.1.Sound :=
  h.keeps (fun _ _ hStep => hStep.sound) hSound

end CallAudio
