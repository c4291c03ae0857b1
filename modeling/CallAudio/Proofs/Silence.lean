import CallAudio.Proofs.Focus

/-! # Silence while nothing is routed

While the route is not routing, nothing but an activation, its end and a stop says anything about
the audio of a call to the platform. A session that begins may register its receivers; a callback
and a look at the deadline tell the platform nothing at all.
-/

namespace CallAudio

def Command.isAudio (command : Command) : Bool :=
  command.isRouting || command.isSetting || command.isFocus

def Operation.isCallControl : Operation → Bool
  | activate => true
  | deactivate => true
  | stop => true
  | _ => false

namespace Switch

variable {σ : Type} {before middle after switch : Switch σ} {order : PreferredOrder} {now : Nat}

/-- Up to `after` the platform was told nothing about the audio of a call, and the route is not
routing there. -/
structure StaysSilent (before after : Switch σ) : Prop where
  silent : after.route.isRouting = false
  commands : ∃ issued, after.host.commands = before.host.commands ++ issued ∧
    ∀ command ∈ issued, command.isAudio = false

theorem StaysSilent.trans (h : before.StaysSilent middle) (h' : middle.StaysSilent after) :
    before.StaysSilent after := by
  obtain ⟨first, hFirst, hEarly⟩ := h.commands
  obtain ⟨last, hLast, hLate⟩ := h'.commands
  refine ⟨h'.silent, first ++ last, ?_, fun command hMem => ?_⟩
  · rw [hLast, hFirst, List.append_assoc]
  · exact (List.mem_append.mp hMem).elim (hEarly command) (hLate command)

theorem staysSilent_mute (hSilent : after.route.isRouting = false)
    (hMute : after.host.commands = before.host.commands) : before.StaysSilent after :=
  ⟨hSilent, [], hMute.trans (List.append_nil _).symm, by simp⟩

theorem staysSilent_write (hSilent : switch.route.isRouting = false) (line : LogLine) :
    switch.StaysSilent (switch.write line) := staysSilent_mute hSilent (Host.commands_write _ _)

variable [Platform σ]

theorem staysSilent_issued {issued : List Command} (hSilent : after.route.isRouting = false)
    (hIssued : Issued issued before.host after.host)
    (hOther : ∀ command ∈ issued, command.isAudio = false) : before.StaysSilent after :=
  ⟨hSilent, issued, hIssued.commands, hOther⟩

omit [Platform σ] in
theorem silent_applyCallback (hSilent : switch.route.isRouting = false) (callback : Callback) :
    (switch.applyCallback callback).2.route.isRouting = false := by
  rcases switch.route_applyCallback callback with hSame | hNone
  · rw [hSame, hSilent]
  · rw [hNone]
    exact hSilent

theorem recompute_applyRoute_of_silent (hSilent : switch.route.isRouting = false) (now : Nat) :
    (switch.recompute []).applyRoute now = switch.recompute [] := by
  have hStill : (switch.recompute []).route.isRouting = false := hSilent
  exact applyRoute_of_silent hStill now

theorem commands_refreshSince (hSilent : switch.route.isRouting = false)
    (view : List Device × Option Device) (now : Nat) :
    (switch.refreshSince view now).host.commands = switch.host.commands := by
  rw [refreshSince, recompute_applyRoute_of_silent hSilent]
  have hSelected : Issued [] switch.host (switch.recompute []).host := .writeAll _ _
  simpa using (hSelected.trans (issued_announce (switch.recompute []) view)).commands

theorem staysSilent_refreshSince (hSilent : switch.route.isRouting = false)
    (view : List Device × Option Device) (now : Nat) :
    switch.StaysSilent (switch.refreshSince view now) := by
  refine staysSilent_mute ?_ (commands_refreshSince hSilent view now)
  rw [(reroutes_refreshSince switch view now).isRouting, hSilent]

/-- A callback, of any session and any content, tells the platform nothing. -/
theorem commands_handle (hSilent : switch.route.isRouting = false) (callback : Callback) (now : Nat) :
    (switch.handle callback now).host.commands = switch.host.commands := by
  have hMute : (switch.applyCallback callback).2.host.commands = switch.host.commands := by
    simpa using (switch.issued_applyCallback callback).commands
  cases hChanged : (switch.applyCallback callback).1 with
  | false => rw [handle_unchanged hChanged, hMute]
  | true =>
    rw [handle_changed hChanged, refresh,
      commands_refreshSince (silent_applyCallback hSilent callback), hMute]

theorem staysSilent_handle (hSilent : switch.route.isRouting = false) (callback : Callback)
    (now : Nat) : switch.StaysSilent (switch.handle callback now) := by
  refine staysSilent_mute ?_ (commands_handle hSilent callback now)
  rw [(reroutes_handle switch callback now).isRouting, silent_applyCallback hSilent]

theorem staysSilent_next (hSilent : switch.route.isRouting = false) (now : Nat) :
    switch.StaysSilent ((switch.next? now).getD switch) := by
  rw [next?]
  split
  · exact staysSilent_mute hSilent rfl
  · rename_i callback rest _
    have hTaken : switch.StaysSilent { switch with host := { switch.host with queue := rest } } :=
      staysSilent_mute hSilent rfl
    exact hTaken.trans (staysSilent_handle hTaken.silent callback now)

/-- A request waits only while devices are being routed, so no deadline comes before. -/
theorem Consistent.poll_of_silent (h : Consistent order switch)
    (hSilent : switch.route.isRouting = false) (now : Nat) : switch.poll now = switch := by
  rcases h.poll_cases now with hSame | ⟨_, _, _, hLink, _⟩
  · exact hSame
  · rw [(h.activating hLink).1] at hSilent
    cases hSilent

theorem staysSilent_startBluetooth (hSilent : switch.route.isRouting = false) :
    switch.StaysSilent switch.startBluetooth := by
  obtain ⟨_, _, hEq, _⟩ := startBluetooth_eq switch
  obtain ⟨issued, hOnly, hIssued⟩ := switch.issued_startBluetooth
  refine staysSilent_issued ?_ hIssued fun command hMem => hOnly command hMem ▸ rfl
  rw [hEq, hSilent]

theorem staysSilent_startWired (hSilent : switch.route.isRouting = false) :
    switch.StaysSilent switch.startWired := by
  obtain ⟨_, _, hEq⟩ := startWired_eq switch
  obtain ⟨issued, hOnly, hIssued⟩ := switch.issued_startWired
  refine staysSilent_issued ?_ hIssued fun command hMem => hOnly command hMem ▸ rfl
  rw [hEq, hSilent]

theorem staysSilent_absorb (hSilent : switch.route.isRouting = false) :
    switch.StaysSilent switch.absorb := by
  have hCallback : ∀ (after : Switch σ) callback, switch.StaysSilent after →
      switch.StaysSilent (after.applyCallback callback).2 := fun after callback h =>
    h.trans (staysSilent_issued (silent_applyCallback h.silent callback)
      (after.issued_applyCallback callback) (by simp))
  exact absorb_induction hCallback (staysSilent_mute hSilent rfl)

theorem staysSilent_start (hSilent : switch.route.isRouting = false) (listener : Option Nat)
    (now : Nat) : switch.StaysSilent (switch.start listener now) := by
  rw [start]
  split
  · exact staysSilent_write hSilent _
  obtain ⟨_, _, hRoute, _, _, line, hHost⟩ := enter_eq switch listener
  have hEntered : switch.StaysSilent (switch.enter listener) := by
    refine staysSilent_mute ?_ ?_
    · rw [hRoute, hSilent]
    · rw [hHost, Host.commands_write]
  have hListening := hEntered.trans (staysSilent_startBluetooth hEntered.silent)
  have hRegistered := hListening.trans (staysSilent_startWired hListening.silent)
  have hBegun := hRegistered.trans (staysSilent_absorb hRegistered.silent)
  generalize (switch.enter listener).startBluetooth.startWired.absorb = begun at *
  simp only [recompute_applyRoute_of_silent hBegun.silent]
  have hSelected : Issued [] begun.host (begun.recompute []).host := .writeAll _ _
  have hStill : (begun.recompute []).notifyDevices.route.isRouting = false := hBegun.silent
  exact hBegun.trans
    (staysSilent_issued hStill (hSelected.trans (issued_notifyDevices _)) (by simp))

theorem staysSilent_choose (hSilent : switch.route.isRouting = false) (device : Device)
    (now : Nat) : switch.StaysSilent (switch.choose device now) := by
  rw [choose]
  split
  · exact staysSilent_write hSilent _
  split
  · exact staysSilent_write hSilent _
  · have hPinned : switch.StaysSilent (switch.pinTo device) := staysSilent_mute hSilent rfl
    exact hPinned.trans (staysSilent_refreshSince hPinned.silent switch.view now)

theorem staysSilent_unchoose (hSilent : switch.route.isRouting = false) (now : Nat) :
    switch.StaysSilent (switch.unchoose now) := by
  rw [unchoose]
  split
  · exact staysSilent_mute hSilent rfl
  · have hFreed : switch.StaysSilent { switch with selector := switch.selector.clearPin } :=
      staysSilent_mute hSilent rfl
    exact hFreed.trans (staysSilent_refreshSince hFreed.silent _ now)

theorem staysSilent_resume (hSilent : switch.route.isRouting = false) :
    switch.StaysSilent switch.resume := by
  rw [resume]
  split
  · have hWritten := staysSilent_write hSilent
      (.info "Bluetooth permission granted, starting headset tracking" [])
    exact hWritten.trans (staysSilent_startBluetooth hWritten.silent)
  · exact staysSilent_mute hSilent rfl

/-- What an operation does on its own keeps the silence, unless it begins or ends routing. -/
theorem staysSilent_act (hSilent : switch.route.isRouting = false) {operation : Operation}
    (hOther : operation.isCallControl = false) (now : Nat) :
    switch.StaysSilent (switch.act operation now) := by
  cases operation with
  | activate | deactivate | stop => cases hOther
  | start listener => exact staysSilent_start hSilent listener now
  | select device => exact staysSilent_choose hSilent device now
  | clearSelection => exact staysSilent_unchoose hSilent now
  | hostResumed => exact staysSilent_resume hSilent
  | _ => exact staysSilent_mute hSilent rfl

theorem Consistent.staysSilent_perform (h : Consistent order switch)
    (hSilent : switch.route.isRouting = false) {operation : Operation}
    (hOther : operation.isCallControl = false) (now : Nat) :
    switch.StaysSilent (switch.perform operation now) := by
  let kept (after : Switch σ) : Prop := Consistent order after ∧ switch.StaysSilent after
  have hCallback : ∀ after, kept after → kept (after.beat (.callback now)) := by
    rintro after ⟨hAfter, hStill⟩
    exact ⟨hAfter.next now, hStill.trans (staysSilent_next hStill.silent now)⟩
  have hPoll : ∀ after, kept after → kept (after.poll now) := by
    rintro after ⟨hAfter, hStill⟩
    rw [hAfter.poll_of_silent hStill.silent now]
    exact ⟨hAfter, hStill⟩
  have hAct : ∀ after, kept after → kept (after.act operation now) := by
    rintro after ⟨hAfter, hStill⟩
    exact ⟨hAfter.beat (.act operation now),
      hStill.trans (staysSilent_act hStill.silent hOther now)⟩
  exact (perform_induction_act hCallback hPoll hAct ⟨h, staysSilent_mute hSilent rfl⟩).2

/-- In a state in which nothing is routed, whether the switch is stopped, started or activated
without focus, no operation but an activation, its end and a stop, no callback whatever it reports
and no look at the deadline tells the platform anything about the audio of a call; and nothing is
routed after it either. -/
theorem silent_while_not_routing (config : SwitchConfig) (platform : σ) (moves : List (Move σ))
    (hSilent : ((create config platform).run moves).route.isRouting = false) (now : Nat) :
    let switch := (create config platform).run moves
    (∀ operation : Operation, operation.isCallControl = false →
      switch.StaysSilent (switch.perform operation now)) ∧
      (∀ callback, switch.StaysSilent (switch.handle callback now) ∧
        (switch.handle callback now).host.commands = switch.host.commands) ∧
      switch.StaysSilent (switch.poll now) ∧
      (switch.poll now).host.commands = switch.host.commands := by
  intro switch
  have h : Consistent config.order switch := consistent_run config platform moves
  refine ⟨fun _ hOther => h.staysSilent_perform hSilent hOther now, fun callback => ?_, ?_⟩
  · exact ⟨staysSilent_handle hSilent callback now, commands_handle hSilent callback now⟩
  · rw [h.poll_of_silent hSilent now]
    exact ⟨staysSilent_mute hSilent rfl, rfl⟩

/-- Focus is declined, so the switch is activated and not routing: neither a headset that connects
nor a choice by hand is heard of by the platform. -/
theorem silent_without_focus :
    let moves : List (Move Handset) := [
      .operation (.start none) 0, .platform ({ · with grantsFocus := false }),
      .operation .activate 0, .callback ⟨1, .bluetooth (.connected ⟨"Buds", "AA"⟩)⟩]
    let switch := (create ⟨.usual, usualLinkTimeout, true, false⟩ Handset.fresh).run moves
    switch.phase = .activated ∧ switch.route.isRouting = false ∧
      switch.StaysSilent (switch.perform (.select .speakerphone) 7) := by
  intro moves
  simp only
  have hSilent : ((create ⟨.usual, usualLinkTimeout, true, false⟩ Handset.fresh).run
    moves).route.isRouting = false := by decide
  obtain ⟨hOperation, _⟩ := silent_while_not_routing _ _ moves hSilent 7
  exact ⟨by decide, hSilent, hOperation (.select .speakerphone) rfl⟩

end Switch

end CallAudio
