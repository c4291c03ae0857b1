import CallAudio.Proofs.Restoring

/-! # The loudspeaker follows the route

During a call the settings of the simulated handset are those that the first activation made, and
the loudspeaker is on exactly while it is the routed device, whatever was routed before, fell back
halfway or dropped.
-/

namespace CallAudio

theorem Handset.audio_routed {commands : List Command}
    (h : ∀ command ∈ commands, command.isRouting = true) (handset : Handset) :
    (commands.foldl (fun handset command => Platform.carryOut command handset) handset).audio =
      { handset.audio with speakerphoneOn := speakerAfter commands handset.audio.speakerphoneOn } := by
  induction commands generalizing handset with
  | nil => rfl
  | cons command commands ih =>
    have hRouting := h command List.mem_cons_self
    rw [List.foldl_cons, ih fun later hMem => h later (List.mem_cons_of_mem command hMem)]
    cases command <;> first | rfl | cases hRouting

namespace Switch

variable {before after switch : Switch Handset}

structure Tuned (switch : Switch Handset) : Prop where
  managesAudio : switch.route.managesAudio = true
  idle : switch.route.activated = false → switch.route.routed = none
  audio : switch.route.activated = true →
    switch.host.platform.audio = ⟨.inCommunication, switch.route.usesSpeaker, false⟩

theorem Tuned.congr (h : before.Tuned)
    (hRoute : ∃ focusHeld, after.route = { before.route with focusHeld })
    (hAudio : after.host.platform.audio = before.host.platform.audio) : after.Tuned := by
  obtain ⟨focusHeld, hRoute⟩ := hRoute
  refine ⟨?_, ?_, ?_⟩ <;> rw [hRoute]
  · exact h.managesAudio
  · exact h.idle
  · rw [hAudio]
    exact h.audio

theorem Tuned.shift (h : before.Tuned) (hShifts : before.Shifts after) : after.Tuned := by
  obtain ⟨_, hRoute⟩ := hShifts.route
  obtain ⟨issued, hIssued, hRouting, hSpeaker⟩ := hShifts.voices
  have hActivated : after.route.activated = before.route.activated := by rw [hRoute]
  refine ⟨?_, ?_, ?_⟩
  · rw [hRoute]
    exact h.managesAudio
  · intro hIdle
    rw [hActivated] at hIdle
    exact hShifts.quiet (by rw [Route.isRouting, hIdle]; rfl) (h.idle hIdle)
  · intro hCall
    rw [hActivated] at hCall
    rw [hIssued.platform, Handset.audio_routed hRouting, h.audio hCall, hSpeaker]

/-- The first activation turns the loudspeaker off, and nothing is routed yet. -/
theorem Tuned.prepare (h : before.Tuned)
    (hIssued : Issued before.route.preparing before.host after.host)
    (hRoute : after.route = (before.route.prepare before.host).1) : after.Tuned := by
  cases hActivated : before.route.activated with
  | true =>
    have hSame : after.route = before.route := by simp [hRoute, Route.prepare, hActivated]
    have hNothing : before.route.preparing = [] := by simp [Route.preparing, hActivated]
    refine h.congr ⟨_, hSame⟩ ?_
    rw [hIssued.platform, hNothing]
    rfl
  | false =>
    have hPreparing : before.route.preparing =
        [.setMode .inCommunication, .setMicrophoneMute false, .setSpeakerphone false] := by
      simp [Route.preparing, hActivated, h.managesAudio]
    have hBegun : after.route.activated = true ∧ after.route.routed = none ∧
        after.route.managesAudio = true := by
      simp [hRoute, Route.prepare, hActivated, h.managesAudio, h.idle hActivated]
    obtain ⟨hCall, hNone, hManages⟩ := hBegun
    refine ⟨hManages, fun _ => hNone, fun _ => ?_⟩
    rw [hIssued.platform, hPreparing, Route.usesSpeaker, hNone]
    rfl

theorem Tuned.dealing (h : before.Tuned) (hDealing : before.Dealing after) : after.Tuned := by
  have hOther : ∀ {issued : List Command}, Issued issued before.host after.host →
      (∀ command ∈ issued, command.isSetting = false) →
      after.host.platform.audio = before.host.platform.audio := by
    intro issued hIssued hSame
    rw [hIssued.platform, Handset.audio_carried hSame]
  cases hDealing with
  | take hTaking =>
    cases hTaking with
    | shift hShifts => exact h.shift hShifts
    | prepare hIssued hBooks => exact h.prepare hIssued (congrArg Books.route hBooks)
    | focus _ _ hIssued hBooks | listen _ hIssued hBooks | register _ hIssued hBooks =>
      exact h.congr ⟨_, congrArg Books.route hBooks⟩ (hOther hIssued (by simp [Command.isSetting]))
  | endCall _ _ hBooks =>
    have hRoute : after.route = _ := congrArg Books.route hBooks
    refine ⟨?_, ?_, ?_⟩ <;> rw [hRoute]
    · exact h.managesAudio
    · exact fun _ => rfl
    · rintro ⟨⟩
  | deafen _ hIssued hBooks | unregister _ hIssued hBooks =>
    exact h.congr ⟨_, congrArg Books.route hBooks⟩ (hOther hIssued (by simp [Command.isSetting]))

theorem Tuned.beat (h : switch.Tuned) (beat : Beat) : (switch.beat beat).Tuned :=
  (dealings_beat switch beat).keeps (fun _ _ hDealing hBefore => Tuned.dealing hBefore hDealing) h

theorem Tuned.move (h : switch.Tuned) {move : Move Handset}
    (hOnly : ∀ change, move = .platform change → ∀ handset, (change handset).audio = handset.audio) :
    (switch.move move).Tuned := by
  cases move with
  | operation operation now => exact perform_induction (fun _ beat hBefore => hBefore.beat beat) h _ _
  | callback callback => exact h.congr ⟨_, rfl⟩ rfl
  | platform change => exact h.congr ⟨_, rfl⟩ (hOnly change rfl _)
  | focus change =>
    have hSame : (switch.host.changeFocus change).platform = switch.host.platform := by
      rw [Host.changeFocus]
      split <;> rfl
    exact h.congr ⟨_, rfl⟩ (congrArg Handset.audio hSame)

theorem tuned_run {config : SwitchConfig} (hManages : config.managesAudio = true)
    (handset : Handset) {moves : List (Move Handset)}
    (hOnly : ∀ change, .platform change ∈ moves →
      ∀ handset, (change handset).audio = handset.audio) :
    ((create config handset).run moves).Tuned := by
  have hBegin : (create config handset).Tuned := ⟨hManages, fun _ => rfl, by rintro ⟨⟩⟩
  refine List.foldlRecOn moves Switch.move hBegin fun _ h move hMem => h.move ?_
  rintro change rfl
  exact hOnly change hMem

/-- While nobody else writes the settings, a call with or without focus is one in communication with
an open microphone, and the loudspeaker is on exactly while it is routed. -/
theorem speaker_follows_route (config : SwitchConfig) (hManages : config.managesAudio = true)
    (handset : Handset) (moves : List (Move Handset))
    (hOnly : ∀ change, .platform change ∈ moves →
      ∀ handset, (change handset).audio = handset.audio) :
    let switch := (create config handset).run moves
    switch.phase = .activated →
      switch.host.platform.audio.mode = .inCommunication ∧
        switch.host.platform.audio.microphoneMuted = false ∧
        (switch.host.platform.audio.speakerphoneOn = true ↔
          switch.route.routed = some .speakerphone) := by
  intro switch hPhase
  have hConsistent : Consistent config.order switch := consistent_run config handset moves
  have hAudio := (tuned_run hManages handset hOnly).audio (hConsistent.activated.mpr hPhase)
  rw [hAudio]
  exact ⟨rfl, rfl, decide_eq_true_iff⟩

/-- A headset is refused its link after the loudspeaker had to give way to it, and so the loudspeaker
is on again. -/
theorem speaker_follows_route_refused :
    let config : SwitchConfig := ⟨.usual, usualLinkTimeout, true, false⟩
    let handset : Handset := { Handset.fresh with
      hasEarpiece := false, refusesLinks := true, audio := ⟨.ringtone, false, true⟩ }
    let moves : List (Move Handset) := [.operation (.start none) 0, .operation .activate 1,
      .callback ⟨1, .bluetooth (.connected ⟨"Buds", "AA"⟩)⟩, .operation .pump 2]
    let switch := (create config handset).run moves
    switch.host.commands.filter (fun command => command.isRouting) = [.setSpeakerphone false,
        .setSpeakerphone true, .setSpeakerphone false, .enableLink "AA", .setSpeakerphone true] ∧
      switch.host.platform.audio.microphoneMuted = false ∧
      switch.host.platform.audio.speakerphoneOn = true := by
  intro config handset moves
  simp only
  have hOnly : ∀ change, .platform change ∈ moves →
      ∀ handset : Handset, (change handset).audio = handset.audio := by
    intro change hMem
    simp [moves] at hMem
  have hPhase : ((create config handset).run moves).phase = .activated := by decide
  obtain ⟨_, hMuted, hSpeaker⟩ := speaker_follows_route config rfl handset moves hOnly hPhase
  exact ⟨by decide, hMuted, hSpeaker.mpr (by decide)⟩

end Switch

end CallAudio
