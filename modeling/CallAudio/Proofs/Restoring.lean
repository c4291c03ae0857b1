import CallAudio.Proofs.Dealings
import CallAudio.Proofs.Holdings
import CallAudio.Proofs.Release
import CallAudio.Proofs.Silence

/-! # Audio settings given back

The settings that a call begins with are kept until it ends, whatever is activated again, declined,
selected or written in between; and the end of the call puts them back. A switch that does not
manage the settings leaves them alone.
-/

namespace CallAudio

/-- What the simulated handset makes of commands about anything else. -/
theorem Handset.audio_carried {commands : List Command}
    (h : ∀ command ∈ commands, command.isSetting = false) (handset : Handset) :
    (commands.foldl (fun handset command => Platform.carryOut command handset) handset).audio =
      handset.audio := by
  induction commands generalizing handset with
  | nil => rfl
  | cons command commands ih =>
    have hOther := h command List.mem_cons_self
    rw [List.foldl_cons, ih fun later hMem => h later (List.mem_cons_of_mem command hMem)]
    cases command <;> first | rfl | cases hOther

theorem Command.isAudio_of_isRouting {command : Command} (h : command.isRouting = true) :
    command.isAudio = true := by
  simp [Command.isAudio, h]

namespace Switch

section Keeping

variable {σ : Type} [Platform σ] {before after switch : Switch σ} {order : PreferredOrder}
  {audio : AudioState}

def Keeps (audio : AudioState) (switch : Switch σ) : Prop :=
  switch.route.activated = true ∧ switch.route.saved = some audio

theorem Keeps.taking (h : before.Keeps audio) (hTaking : before.Taking after) :
    after.Keeps audio := by
  obtain ⟨hActivated, hSaved⟩ := h
  cases hTaking with
  | shift hShifts =>
    obtain ⟨_, hRoute⟩ := hShifts.route
    rw [Keeps, hRoute]
    exact ⟨hActivated, hSaved⟩
  | prepare _ hBooks =>
    -- A call that goes on is prepared for already.
    have hRoute : after.route = before.route :=
      (congrArg Books.route hBooks).trans (by simp [Route.prepare, hActivated])
    rw [Keeps, hRoute]
    exact ⟨hActivated, hSaved⟩
  | focus _ _ _ hBooks =>
    rw [Keeps, show after.route = _ from congrArg Books.route hBooks]
    exact ⟨hActivated, hSaved⟩
  | listen _ _ hBooks | register _ _ hBooks =>
    rw [Keeps, show after.route = _ from congrArg Books.route hBooks]
    exact ⟨hActivated, hSaved⟩

theorem Keeps.takings (h : before.Keeps audio) (hTakings : before.Takings after) :
    after.Keeps audio :=
  hTakings.keeps (fun _ _ hTaking hKeeps => Keeps.taking hKeeps hTaking) h

/-- The first activation keeps the settings that it finds. -/
theorem keeps_engage (hRunning : switch.phase ≠ .stopped) (hIdle : switch.route.activated = false)
    (hManages : switch.route.managesAudio = true) (now : Nat) :
    (switch.engage now).2.Keeps (Platform.audioState switch.host.platform) := by
  have hReadied : switch.readied.Keeps (Platform.audioState switch.host.platform) := by
    simp [Keeps, readied, Route.prepare, hIdle, hManages]
  exact hReadied.takings (takings_readied hRunning now)

theorem Keeps.perform (h : switch.Keeps audio) {operation : Operation}
    (hOther : operation.endsCall = false) (now : Nat) :
    (switch.perform operation now).Keeps audio := by
  have hAct : (Beat.act operation now).endsCall = false := hOther
  exact perform_induction_act (fun _ hKeeps => hKeeps.takings (takings_beat _ rfl))
    (fun _ hKeeps => hKeeps.takings (shifts_poll _ now).takings)
    (fun _ hKeeps => hKeeps.takings (takings_beat _ hAct)) h

/-- The settings are kept until the call ends, whatever else happens. -/
theorem Keeps.run (h : switch.Keeps audio) {moves : List (Move σ)}
    (hCall : ∀ operation now, .operation operation now ∈ moves → operation.endsCall = false) :
    (switch.run moves).Keeps audio := by
  induction moves generalizing switch with
  | nil => exact h
  | cons move moves ih =>
    refine ih ?_ fun operation now hMem => hCall operation now (List.mem_cons_of_mem move hMem)
    cases move with
    | operation operation now => exact h.perform (hCall operation now List.mem_cons_self) now
    | _ => exact h

/-- Callbacks tell a platform that is not routed to nothing, so an activation finds the settings as they
were when it was asked for. -/
theorem Consistent.platform_pumped (h : Consistent order switch)
    (hSilent : switch.route.isRouting = false) (now : Nat) :
    (switch.pumped now).host.platform = switch.host.platform := by
  obtain ⟨issued, hIssued, hRouting, _⟩ := (shifts_pumped switch now).voices
  have hPump : switch.StaysSilent (switch.perform .pump now) :=
    h.staysSilent_perform hSilent rfl now
  obtain ⟨heard, hCommands, hOther⟩ := hPump.commands
  obtain rfl : issued = heard := List.append_cancel_left (hIssued.commands.symm.trans hCommands)
  have hNone : issued = [] := by
    refine List.eq_nil_iff_forall_not_mem.mpr fun command hMem => ?_
    have hAudio := Command.isAudio_of_isRouting (hRouting command hMem)
    exact absurd (hAudio.symm.trans (hOther command hMem)) (by decide)
  rw [hIssued.platform, hNone]
  rfl

end Keeping

section Giving

variable {switch : Switch Handset} {audio : AudioState}

theorem Keeps.audio_deactivateRoute (h : switch.Keeps audio) :
    switch.deactivateRoute.host.platform.audio = audio := by
  obtain ⟨hActivated, hSaved⟩ := h
  have hIssued := switch.issued_deactivateRoute
  rw [if_pos hActivated] at hIssued
  rw [hIssued.platform, List.foldl_append, Route.restoring, hSaved]
  rfl

theorem audio_leave (switch : Switch Handset) :
    switch.leave.host.platform.audio = switch.host.platform.audio := by
  obtain ⟨issued, hOnly, hIssued⟩ := switch.issued_leave
  rw [hIssued.platform]
  refine Handset.audio_carried (fun command hMem => ?_) _
  rcases hOnly command hMem with rfl | rfl | rfl <;> rfl

theorem Keeps.audio_disengage (h : switch.Keeps audio) (hPhase : switch.phase = .activated) :
    switch.disengage.host.platform.audio = audio := by
  rw [disengage, if_neg (not_not.mpr hPhase)]
  exact h.audio_deactivateRoute

theorem Keeps.audio_stop (h : switch.Keeps audio) (hPhase : switch.phase = .activated) :
    switch.stop.host.platform.audio = audio := by
  rw [Switch.stop, if_neg (by rw [hPhase]; decide), audio_leave]
  exact Keeps.audio_deactivateRoute h

end Giving

section Abstaining

variable {σ : Type} [Platform σ] {before after switch : Switch σ} {config : SwitchConfig}

structure Abstains (switch : Switch σ) : Prop where
  managesAudio : switch.route.managesAudio = false
  saved : switch.route.saved = none
  commands : ∀ command ∈ switch.host.commands, command.isSetting = true → command.isRouting = true

theorem Abstains.step (h : before.Abstains) {issued : List Command}
    (hIssued : Issued issued before.host after.host)
    (hOther : ∀ command ∈ issued, command.isSetting = true → command.isRouting = true)
    (hManages : after.route.managesAudio = before.route.managesAudio)
    (hSaved : after.route.saved = none) : after.Abstains := by
  refine ⟨hManages.trans h.managesAudio, hSaved, fun command hMem => ?_⟩
  rw [hIssued.commands] at hMem
  exact (List.mem_append.mp hMem).elim (h.commands command) (hOther command)

theorem Abstains.dealing (h : before.Abstains) (hDealing : before.Dealing after) :
    after.Abstains := by
  cases hDealing with
  | take hTaking =>
    cases hTaking with
    | shift hShifts =>
      obtain ⟨_, hRoute⟩ := hShifts.route
      obtain ⟨issued, hIssued, hRouting, _⟩ := hShifts.voices
      refine h.step hIssued (fun command hMem _ => hRouting command hMem) ?_ ?_ <;> rw [hRoute]
      exact h.saved
    | prepare hIssued hBooks =>
      have hNothing : before.route.preparing = [] := by simp [Route.preparing, h.managesAudio]
      have hRoute : after.route = { before.route with activated := true } := by
        refine (congrArg Books.route hBooks).trans ?_
        rw [Route.prepare]
        split
        · rename_i hActivated
          rw [← hActivated]
        · rw [if_pos (by simp [h.managesAudio])]
      refine h.step hIssued (by simp [hNothing]) ?_ ?_ <;> rw [hRoute]
      exact h.saved
    | focus _ _ hIssued hBooks =>
      refine h.step hIssued (by simp [Command.isSetting]) ?_ ?_ <;>
        rw [show after.route = _ from congrArg Books.route hBooks]
      exact h.saved
    | listen _ hIssued hBooks | register _ hIssued hBooks =>
      refine h.step hIssued (by simp [Command.isSetting]) ?_ ?_ <;>
        rw [show after.route = _ from congrArg Books.route hBooks]
      exacts [rfl, h.saved]
  | endCall _ hIssued hBooks =>
    have hNothing : before.route.restoring = [] := by simp [Route.restoring, h.saved]
    refine h.step hIssued (fun command hMem hSetting => ?_) ?_ ?_
    · rw [hNothing, List.append_nil] at hMem
      rcases List.mem_append.mp hMem with hSilencing | hFocus
      · exact Route.isRouting_of_mem_silencing hSilencing
      · split at hFocus
        · rw [List.mem_singleton.mp hFocus] at hSetting
          cases hSetting
        · cases hFocus
    all_goals rw [show after.route = _ from congrArg Books.route hBooks]
  | deafen _ hIssued hBooks | unregister _ hIssued hBooks =>
    refine h.step hIssued (by simp [Command.isSetting]) ?_ ?_ <;>
      rw [show after.route = _ from congrArg Books.route hBooks]
    exacts [rfl, h.saved]

theorem Abstains.beat (h : switch.Abstains) (beat : Beat) : (switch.beat beat).Abstains :=
  (dealings_beat switch beat).keeps (fun _ _ hDealing hBefore => Abstains.dealing hBefore hDealing) h

theorem Abstains.move (h : switch.Abstains) (move : Move σ) : (switch.move move).Abstains := by
  cases move with
  | operation operation now => exact perform_induction (fun _ beat hBefore => hBefore.beat beat) h _ _
  | focus change =>
    have hSame : (switch.host.changeFocus change).commands = switch.host.commands := by
      rw [Host.changeFocus]
      split <;> rfl
    exact ⟨h.managesAudio, h.saved, by rw [Switch.move, hSame]; exact h.commands⟩
  | _ => exact ⟨h.managesAudio, h.saved, h.commands⟩

theorem abstains_run (hLeaves : config.managesAudio = false) (platform : σ)
    (moves : List (Move σ)) : ((create config platform).run moves).Abstains := by
  have hBegin : (create config platform).Abstains := by
    refine ⟨hLeaves, rfl, fun command hMem => ?_⟩
    have hNone : (create config platform).host.commands = [] :=
      (Issued.writeAll (Host.ofPlatform platform config.logging) _).commands
    rw [hNone] at hMem
    cases hMem
  exact List.foldlRecOn moves move hBegin fun _ h move _ => h.move move

end Abstaining

/-- With managed settings, the deactivation or stop that ends an activation leaves the settings as the
activation found them, whatever happened in between; and an activation that is asked for in a started
switch changes nothing before it looks. Without, no run sets the mode or mutes the microphone. -/
theorem audio_settings_restored (config : SwitchConfig) :
    (config.managesAudio = true → ∀ (handset : Handset) (earlier during : List (Move Handset))
      (now later : Nat),
      let found := (create config handset).run earlier
      let call := (found.activate now).2.run during
      found.phase = .started →
      (∀ operation now, .operation operation now ∈ during → operation.endsCall = false) →
      (found.pumped now).host.platform.audio = found.host.platform.audio ∧
        call.phase = .activated ∧
        (call.deactivate later).host.platform.audio = found.host.platform.audio ∧
        call.stop.host.platform.audio = found.host.platform.audio) ∧
      (config.managesAudio = false → ∀ {σ : Type} [Platform σ] (platform : σ)
        (moves : List (Move σ)), ∀ command ∈ ((create config platform).run moves).host.commands,
        (∀ mode, command ≠ .setMode mode) ∧ ∀ muted, command ≠ .setMicrophoneMute muted) := by
  refine ⟨fun hManages handset earlier during now later => ?_, fun hLeaves σ _ platform moves => ?_⟩
  · intro found call hStarted hCall
    have hFound : Consistent config.order found := consistent_run config handset earlier
    have hPumped := hFound.move (.operation .pump now)
    have hPhase : (found.pumped now).phase = .started := (phase_pumped found now).trans hStarted
    have hIdle : (found.pumped now).route.activated = false := by
      refine Bool.eq_false_iff.mpr fun hActivated => ?_
      exact absurd ((hPumped.activated.mp hActivated).symm.trans hPhase) (by decide)
    have hSilent : found.route.isRouting = false := hFound.silent_of_phase (by rw [hStarted]; decide)
    have hPlatform := hFound.platform_pumped hSilent now
    have hManaged : (found.pumped now).route.managesAudio = true := by
      obtain ⟨_, hRoute⟩ := (shifts_pumped found now).route
      rw [hRoute]
      exact (tidy_run config handset earlier).managesAudio.trans hManages
    have hKeeps : call.Keeps found.host.platform.audio := by
      rw [← hPlatform]
      exact (keeps_engage (by rw [hPhase]; decide) hIdle hManaged now).run hCall
    have hCalling : Consistent config.order call := by
      have hRun : call = (create config handset).run
          (earlier ++ .operation .activate now :: during) := by
        rw [Switch.run, List.foldl_append]
        rfl
      rw [hRun]
      exact consistent_run config handset _
    have hActivated : call.phase = .activated := hCalling.activated.mp hKeeps.1
    refine ⟨congrArg Handset.audio hPlatform, hActivated, ?_, hKeeps.audio_stop hActivated⟩
    have hPump : (call.perform .pump later).Keeps found.host.platform.audio :=
      hKeeps.perform rfl later
    exact hPump.audio_disengage ((phase_pumped call later).trans hActivated)
  · intro command hMem
    have hRouting := (abstains_run hLeaves platform moves).commands command hMem
    constructor
    · rintro mode rfl
      cases hRouting rfl
    · rintro muted rfl
      cases hRouting rfl

/-- Focus is declined at first, somebody else rings in between, and the settings are still those that
the first activation found. A switch that does not manage settings takes the same course. -/
theorem audio_settings_restored_retry :
    let managing : SwitchConfig := ⟨.usual, usualLinkTimeout, true, false⟩
    let handset : Handset := { Handset.fresh with
      audio := ⟨.ringtone, true, true⟩, grantsFocus := false }
    let during : List (Move Handset) := [.platform ({ · with grantsFocus := true }),
      .operation .activate 2, .operation (.select .speakerphone) 3,
      .platform ({ · with audio := ⟨.inCall, true, true⟩ })]
    let found := (create managing handset).run [.operation (.start none) 0]
    let call := (found.activate 1).2.run during
    call.host.platform.audio = ⟨.inCall, true, true⟩ ∧
      (call.deactivate 4).host.platform.audio = ⟨.ringtone, true, true⟩ ∧
      call.stop.host.platform.audio = ⟨.ringtone, true, true⟩ ∧
      .setMode .inCommunication ∉ ((create { managing with managesAudio := false } handset).run
        (.operation (.start none) 0 :: .operation .activate 1 :: during)).host.commands := by
  intro managing handset during
  simp only
  have hStarted : ((create managing handset).run [.operation (.start none) 0]).phase = .started := by
    decide
  have hCall : ∀ operation now, .operation operation now ∈ during → operation.endsCall = false := by
    intro operation now hMem
    simp only [during, List.mem_cons, List.not_mem_nil, or_false, reduceCtorEq, false_or,
      Move.operation.injEq] at hMem
    rcases hMem with ⟨rfl, _⟩ | ⟨rfl, _⟩ <;> rfl
  obtain ⟨hRestored, _⟩ := audio_settings_restored managing
  obtain ⟨_, _, hDeactivated, hStopped⟩ := hRestored rfl handset _ during 1 4 hStarted hCall
  have hFound : ((create managing handset).run [.operation (.start none) 0]).host.platform.audio =
      ⟨.ringtone, true, true⟩ := by decide
  obtain ⟨_, hLeft⟩ := audio_settings_restored { managing with managesAudio := false }
  refine ⟨by decide, hDeactivated.trans hFound, hStopped.trans hFound, fun hMem => ?_⟩
  exact (hLeft rfl handset _ _ hMem).1 .inCommunication rfl

end Switch

end CallAudio
