import CallAudio.Proofs.Issued
import CallAudio.Proofs.Operations

/-! # Commands about links

The tracker's link and the commands issued about links move together while the switch routes; only
a reply changes the link without a command. Every beat of a run is one of these.
-/

namespace CallAudio

def Command.isLink : Command → Bool
  | enableLink _ => true
  | disableLink => true
  | _ => false

namespace Host

variable {σ : Type}

def linkCommands (host : Host σ) : List Command := host.commands.filter Command.isLink

@[simp] theorem linkCommands_write (host : Host σ) (line : LogLine) :
    (host.write line).linkCommands = host.linkCommands := by
  simp [linkCommands]

@[simp] theorem linkCommands_writeAll (host : Host σ) (lines : List LogLine) :
    (host.writeAll lines).linkCommands = host.linkCommands := by
  induction lines generalizing host with
  | nil => rfl
  | cons line lines ih => exact (ih (host.write line)).trans (linkCommands_write host line)

end Host

variable {σ : Type}

theorem Issued.linkCommands [Platform σ] {issued : List Command} {before after : Host σ}
    (h : Issued issued before after) :
    after.linkCommands = before.linkCommands ++ issued.filter Command.isLink := by
  rw [Host.linkCommands, h.commands, List.filter_append, Host.linkCommands]

theorem Issued.linkCommands_other [Platform σ] {issued : List Command} {before after : Host σ}
    (h : Issued issued before after) (hOther : ∀ command ∈ issued, command.isLink = false) :
    after.linkCommands = before.linkCommands := by
  rw [h.linkCommands, List.filter_eq_nil_iff.mpr, List.append_nil]
  simpa using hOther

theorem Command.isLink_of_isSetting {command : Command} (h : command.isSetting = true) :
    command.isLink = false := by
  cases command <;> first | rfl | cases h

theorem Route.linkCommands_activate [Platform σ] (route : Route) (host : Host σ) :
    (route.activate host).2.2.linkCommands = host.linkCommands := by
  refine (Issued.activate route host).linkCommands_other fun command hMem => ?_
  rcases List.mem_append.mp hMem with hPrepared | hFocus
  · exact Command.isLink_of_isSetting (isSetting_of_mem_preparing hPrepared)
  · split at hFocus
    · cases hFocus
    · rw [List.mem_singleton.mp hFocus]
      rfl

namespace Switch

/-- Nothing is said about links, and the link is as it was, gone, or open as a reply has it. -/
def Heeds (before after : Switch σ) : Prop :=
  after.host.linkCommands = before.host.linkCommands ∧
    (after.tracker.link = before.tracker.link ∨ after.tracker.link = .idle ∨
      ∃ address, after.tracker.link = .active address)

theorem Heeds.refl (switch : Switch σ) : switch.Heeds switch := ⟨rfl, .inl rfl⟩

theorem Heeds.trans {before middle after : Switch σ} (h : before.Heeds middle)
    (h' : middle.Heeds after) : before.Heeds after := by
  refine ⟨h'.1.trans h.1, ?_⟩
  rcases h'.2 with hSame | hOther
  · rw [hSame]
    exact h.2
  · exact .inr hOther

theorem heeds_enter (switch : Switch σ) (listener : Option Nat) :
    switch.Heeds (switch.enter listener) := by
  obtain ⟨_, hTracker, _, _, _, _, hHost⟩ := enter_eq switch listener
  refine ⟨?_, .inl (congrArg Tracker.link hTracker)⟩
  rw [hHost]
  exact Host.linkCommands_write _ _

variable [Platform σ] {switch : Switch σ}

theorem heeds_applyCallback (switch : Switch σ) (callback : Callback) :
    switch.Heeds (switch.applyCallback callback).2 := by
  refine ⟨(switch.issued_applyCallback callback).linkCommands_other (by simp), ?_⟩
  rw [applyCallback]
  split
  · exact .inl rfl
  split
  · rename_i event _
    cases hListening : switch.tracker.listening with
    | false => exact .inl (by simp [applyBluetooth, hListening])
    | true =>
      cases hReport : switch.tracker.report? event with
      | none => exact .inl (by simp [applyBluetooth, hListening, hReport])
      | some report =>
        obtain ⟨_, _, hTracker, _⟩ := applyBluetooth_eq hListening hReport
        rw [hTracker]
        exact switch.tracker.link_apply event
  · exact .inl rfl

theorem heeds_absorb (switch : Switch σ) : switch.Heeds switch.absorb := by
  have hCallback : ∀ (after : Switch σ) callback, switch.Heeds after →
      switch.Heeds (after.applyCallback callback).2 :=
    fun after callback hBefore => hBefore.trans (heeds_applyCallback after callback)
  exact absorb_induction hCallback ⟨rfl, .inl rfl⟩

/-- The end of an activation closes the link if a headset is routed. -/
theorem linkCommands_deactivateRoute (hSound : switch.tracker.Sound) :
    switch.deactivateRoute.host.linkCommands = switch.host.linkCommands ++
      if switch.route.activated && switch.route.routed.any (·.isBluetooth) &&
        decide (switch.tracker.link ≠ .idle) then [.disableLink] else [] := by
  have hLink : switch.tracker.listening?.any (·.link ≠ .idle) =
      decide (switch.tracker.link ≠ .idle) := by
    rw [Tracker.listening?]
    cases hListening : switch.tracker.listening with
    | true => rfl
    | false => simp [hSound.link_idle (hSound.silent hListening)]
  have hRestoring : switch.route.restoring.filter Command.isLink = [] := by
    refine List.filter_eq_nil_iff.mpr fun command hMem => ?_
    simp [Command.isLink_of_isSetting (Route.isSetting_of_mem_restoring hMem)]
  have hFocus : (if switch.route.focusHeld then [Command.abandonFocus] else []).filter
      Command.isLink = [] := by
    split <;> rfl
  rw [switch.issued_deactivateRoute.linkCommands]
  cases switch.route.activated with
  | false => rfl
  | true =>
    simp only [if_true, List.filter_append, hRestoring, hFocus, Route.silencing, hLink,
      Bool.true_and, List.append_nil]
    cases switch.route.routed with
    | none => rfl
    | some device =>
      cases device with
      | bluetoothHeadset headset =>
        cases hOpen : decide (switch.tracker.link ≠ .idle) <;> rfl
      | _ => rfl

theorem linkCommands_startBluetooth (switch : Switch σ) :
    switch.startBluetooth.host.linkCommands = switch.host.linkCommands := by
  obtain ⟨issued, hOnly, hIssued⟩ := switch.issued_startBluetooth
  exact hIssued.linkCommands_other fun command hMem => hOnly command hMem ▸ rfl

theorem linkCommands_startWired (switch : Switch σ) :
    switch.startWired.host.linkCommands = switch.host.linkCommands := by
  obtain ⟨issued, hOnly, hIssued⟩ := switch.issued_startWired
  exact hIssued.linkCommands_other fun command hMem => hOnly command hMem ▸ rfl

end Switch

variable [Platform σ]

theorem LinkStep.linkCommands {before after : Tracker × Host σ} (h : LinkStep before after) :
    ∃ said, after.2.linkCommands = before.2.linkCommands ++ said ∧
      (said = [] → after.1.link = before.1.link) := by
  have hNothing : ∀ host host' : Host σ, host'.linkCommands = host.linkCommands →
      host'.linkCommands = host.linkCommands ++ [] := by
    intro host host' hSame
    rw [hSame, List.append_nil]
  cases h with
  | write tracker host line =>
    exact ⟨[], hNothing _ _ (Host.linkCommands_write host line), fun _ => rfl⟩
  | notify tracker host notice => exact ⟨[], hNothing _ _ rfl, fun _ => rfl⟩
  | speaker tracker host on => exact ⟨_, (Issued.issue host _).linkCommands, fun _ => rfl⟩
  | close tracker host => exact ⟨_, (Issued.issue host _).linkCommands, by rintro ⟨⟩⟩
  | «open» tracker host address => exact ⟨_, (Issued.enableLink host address).linkCommands, by rintro ⟨⟩⟩
  | refuse tracker host address =>
    exact ⟨_, (Issued.enableLink host address).linkCommands, by rintro ⟨⟩⟩
  | expire tracker host => exact ⟨_, (Issued.issue host _).linkCommands, by rintro ⟨⟩⟩

theorem LinkSteps.link_of_silent {before after : Tracker × Host σ} (h : LinkSteps before after)
    (hSilent : after.2.linkCommands = before.2.linkCommands) : after.1.link = before.1.link := by
  have hSaid : ∃ said, after.2.linkCommands = before.2.linkCommands ++ said ∧
      (said = [] → after.1.link = before.1.link) := by
    clear hSilent
    induction h with
    | refl => exact ⟨[], (List.append_nil _).symm, fun _ => rfl⟩
    | tail _ hLast ih =>
      obtain ⟨first, hFirst, hBefore⟩ := ih
      obtain ⟨last, hThen, hAfter⟩ := hLast.linkCommands
      refine ⟨first ++ last, by rw [hThen, hFirst, List.append_assoc], fun hNone => ?_⟩
      obtain ⟨hNoFirst, hNoLast⟩ := List.append_eq_nil_iff.mp hNone
      exact (hAfter hNoLast).trans (hBefore hNoFirst)
  obtain ⟨said, hSaid, hSame⟩ := hSaid
  exact hSame (List.append_cancel_left ((hSaid.symm.trans hSilent).trans (List.append_nil _).symm))

/-- Routing leaves the link alone and says nothing about links, or there is no link in the end, or
the last command asks for the link that is pending. -/
theorem LinkSteps.commands {before after : Tracker × Host σ} (h : LinkSteps before after) :
    (after.1.link = before.1.link ∧ after.2.linkCommands = before.2.linkCommands) ∨
      after.1.link = .idle ∨
      ∃ address since, after.1.link = .activating address since ∧
        after.2.linkCommands.getLast? = some (.enableLink address) := by
  induction h with
  | refl => exact .inl ⟨rfl, rfl⟩
  | tail _ hLast ih =>
    cases hLast with
    | write tracker host line => simpa using ih
    | notify tracker host notice => exact ih
    | speaker tracker host on =>
      have hSame : (host.issue (.setSpeakerphone on)).linkCommands = host.linkCommands :=
        (Issued.issue host _).linkCommands_other (by simp [Command.isLink])
      simpa only [hSame] using ih
    | close tracker host => exact .inr (.inl rfl)
    | «open» tracker host address now =>
      refine .inr (.inr ⟨address, now, rfl, ?_⟩)
      rw [(Issued.enableLink host address).linkCommands]
      exact List.getLast?_concat
    | refuse tracker host address reason hIdle =>
      refine .inr (.inl ?_)
      simp [Tracker.markFailed, hIdle, Link.address?]
    | expire tracker host address since hPending =>
      refine .inr (.inl ?_)
      simp [Tracker.markFailed, hPending, Link.address?]

end CallAudio
