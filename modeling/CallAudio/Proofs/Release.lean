import CallAudio.Proofs.BorrowedLink
import CallAudio.Proofs.Focus

/-! # What the end of an activation gives back

The platform holds focus for the switch only while the route counts it as held, so the end of an
activation leaves none. The link is closed with the route that it belongs to; a link that was opened
for no routed headset stays open.
-/

namespace CallAudio

variable {σ : Type} [Platform σ]

/-- A platform on which `held` tells whether focus is held for the switch: a request that is granted
takes it, and nothing else does. -/
structure LawfulFocus (held : σ → Bool) : Prop where
  other : ∀ command platform, command ≠ .requestFocus →
    held (Platform.carryOut command platform) = true → held platform = true
  declined : ∀ platform, Platform.grantsFocus platform = false →
    held (Platform.carryOut .requestFocus platform) = true → held platform = true
  abandoned : ∀ platform, held (Platform.carryOut .abandonFocus platform) = false

theorem lawfulFocus_handset : LawfulFocus Handset.focusHeld where
  other command platform hOther hHeld := by
    cases command with
    | requestFocus => exact absurd rfl hOther
    | abandonFocus => cases hHeld
    | _ => exact hHeld
  declined platform hDeclined hHeld := by
    have hDeclined : platform.grantsFocus = false := hDeclined
    have hHeld : (platform.grantsFocus || platform.focusHeld) = true := hHeld
    rwa [hDeclined, Bool.false_or] at hHeld
  abandoned _ := rfl

/-- If focus that is held was known before some commands, it is known after them as well. -/
theorem LawfulFocus.known {held : σ → Bool} (h : LawfulFocus held) {commands : List Command}
    {platform : σ} {known : Bool} (hKnown : held platform = true → known = true)
    (hHeld : held (commands.foldl (fun platform command => Platform.carryOut command platform)
      platform) = true) : focusAfter commands platform known = true := by
  induction commands generalizing platform known with
  | nil => exact hKnown hHeld
  | cons command commands ih =>
    refine ih (fun hNext => ?_) hHeld
    cases command with
    | requestFocus =>
      cases hGranted : Platform.grantsFocus platform with
      | true => simp [focusOnce, hGranted]
      | false => simp [focusOnce, hGranted, hKnown (h.declined platform hGranted hNext)]
    | abandonFocus => exact absurd (hNext.symm.trans (h.abandoned platform)) (by decide)
    | _ => exact hKnown (h.other _ platform (by simp) hNext)

namespace Switch

variable {held : σ → Bool} {order : PreferredOrder} {switch after : Switch σ}

def OwnsFocus (held : σ → Bool) (switch : Switch σ) : Prop :=
  held switch.host.platform = true → switch.route.focusHeld = true

theorem OwnsFocus.track (h : OwnsFocus held switch) (hFocus : LawfulFocus held)
    (hTracks : switch.TracksFocus after) : OwnsFocus held after := by
  obtain ⟨issued, hIssued, hRoute⟩ := hTracks
  intro hHeld
  rw [hIssued.platform] at hHeld
  exact hRoute.trans (hFocus.known h hHeld)

theorem OwnsFocus.held_deactivateRoute (h : OwnsFocus held switch) (hFocus : LawfulFocus held)
    (hActivated : switch.route.activated = true) :
    held switch.deactivateRoute.host.platform = false := by
  refine Bool.eq_false_iff.mpr fun hHeld => ?_
  have hKnown := h.track hFocus (tracksFocus_deactivateRoute switch) hHeld
  rw [route_deactivateRoute, if_pos hActivated] at hKnown
  cases hKnown

theorem OwnsFocus.beat (h : OwnsFocus held switch) (hFocus : LawfulFocus held) (beat : Beat) :
    OwnsFocus held (switch.beat beat) := h.track hFocus (tracksFocus_beat switch beat)

theorem OwnsFocus.move (h : OwnsFocus held switch) (hFocus : LawfulFocus held) {move : Move σ}
    (hMove : ∀ change, move = .platform change →
      ∀ platform, held (change platform) = true → held platform = true) :
    OwnsFocus held (switch.move move) := by
  cases move with
  | operation operation now =>
    exact perform_induction (fun _ beat hBefore => hBefore.beat hFocus beat) h operation now
  | callback callback => exact h
  | platform change => exact fun hHeld => h (hMove change rfl _ hHeld)
  | focus change =>
    rw [OwnsFocus, Switch.move, Host.changeFocus]
    split <;> exact h

theorem ownsFocus_run {config : SwitchConfig} {platform : σ} {moves : List (Move σ)}
    (hFocus : LawfulFocus held) (hFree : held platform = false)
    (hMoves : ∀ change, .platform change ∈ moves →
      ∀ platform, held (change platform) = true → held platform = true) :
    OwnsFocus held ((create config platform).run moves) := by
  have hBegin : OwnsFocus held (create config platform) := by
    intro hHeld
    have hSame : (create config platform).host.platform = platform :=
      (Issued.writeAll (Host.ofPlatform platform config.logging) _).platform
    rw [hSame, hFree] at hHeld
    cases hHeld
  generalize create config platform = switch at hBegin
  induction moves generalizing switch with
  | nil => exact hBegin
  | cons move moves ih =>
    refine ih (fun change hMem => hMoves change (List.mem_cons_of_mem move hMem)) _ ?_
    exact hBegin.move hFocus fun change hMove => hMoves change (hMove ▸ List.mem_cons_self)

theorem phase_next (switch : Switch σ) (now : Nat) :
    ((switch.next? now).getD switch).phase = switch.phase := by
  rw [next?]
  split
  · rfl
  rename_i callback rest _
  have hPhase := phase_applyCallback { switch with host := { switch.host with queue := rest } }
    callback
  exact (reroutes_handle _ callback now).phase.trans hPhase

theorem phase_pumped (switch : Switch σ) (now : Nat) : (switch.pumped now).phase = switch.phase := by
  have hDrained : ∀ (beats : List Beat), (∀ beat ∈ beats, beat = .callback now) →
      ∀ switch : Switch σ, (beats.foldl beat switch).phase = switch.phase := by
    intro beats
    induction beats with
    | nil => exact fun _ _ => rfl
    | cons first beats ih =>
      intro hBeats switch
      rw [List.foldl_cons, ih fun beat hMem => hBeats beat (List.mem_cons_of_mem first hMem),
        hBeats first List.mem_cons_self]
      exact phase_next switch now
  rw [pumped_eq_foldl, pumpBeats, List.foldl_append]
  exact (reroutes_poll _ now).phase.trans (hDrained _ (fun _ => List.eq_of_mem_replicate) switch)

/-- The link is closed with the route of a headset, and with no other. A request that is not
confirmed yet always belongs to the routed headset. -/
theorem Steady.deactivateRoute_link_iff (h : Steady order switch)
    (hActivated : switch.route.activated = true) :
    (switch.deactivateRoute.tracker.link = .idle ∧ (switch.tracker.link ≠ .idle →
        switch.deactivateRoute.host.linkCommands = switch.host.linkCommands ++ [.disableLink])) ↔
      ∀ address, switch.tracker.link = .active address →
        ∃ headset, switch.route.routed = some (.bluetoothHeadset headset) := by
  have hCommands := linkCommands_deactivateRoute h.sound
  rw [tracker_deactivateRoute h.sound]
  simp only [hActivated, Bool.true_and] at hCommands ⊢
  by_cases hHeadset : ∃ headset, switch.route.routed = some (.bluetoothHeadset headset)
  · obtain ⟨headset, hRouted⟩ := hHeadset
    have hBluetooth : switch.route.routed.any (·.isBluetooth) = true := by
      rw [hRouted]
      rfl
    rw [hBluetooth] at hCommands ⊢
    refine ⟨fun _ _ _ => ⟨headset, hRouted⟩, fun _ => ⟨rfl, fun hOpen => ?_⟩⟩
    simpa [hOpen] using hCommands
  · have hOther : switch.route.routed.any (·.isBluetooth) = false := by
      cases hRouted : switch.route.routed with
      | none => rfl
      | some device =>
        cases device with
        | bluetoothHeadset headset => exact absurd ⟨headset, hRouted⟩ hHeadset
        | _ => rfl
    simp only [hOther, Bool.false_eq_true, if_false]
    constructor
    · rintro ⟨hIdle, _⟩ address hActive
      cases hIdle.symm.trans hActive
    · intro hRouted
      cases hLink : switch.tracker.link with
      | idle => exact ⟨rfl, fun hOpen => absurd rfl hOpen⟩
      | active address => exact absurd (hRouted address hLink) hHeadset
      | activating address since =>
        obtain ⟨device, hDevice, hAddress⟩ :=
          Option.bind_eq_some_iff.mp (h.pending address since hLink)
        cases device with
        | bluetoothHeadset headset => exact absurd ⟨headset, hDevice⟩ hHeadset
        | _ => cases hAddress

/-- The end of an activation always leaves nothing routed and no focus. It leaves no link, and says so
to the platform, exactly if an open link belonged to a routed headset. -/
theorem deactivate_releases_iff {held : σ → Bool} (hFocus : LawfulFocus held)
    (config : SwitchConfig) (platform : σ) (hFree : held platform = false) {moves : List (Move σ)}
    (hMoves : ∀ change, .platform change ∈ moves →
      ∀ platform, held (change platform) = true → held platform = true)
    (hActivated : ((create config platform).run moves).phase = .activated) (now : Nat) :
    let released := ((create config platform).run moves).pumped now
    let after := ((create config platform).run moves).deactivate now
    after.phase = .started ∧ after.route.routed = none ∧ held after.host.platform = false ∧
      ((after.tracker.link = .idle ∧ (released.tracker.link ≠ .idle →
          after.host.linkCommands = released.host.linkCommands ++ [.disableLink])) ↔
        ∀ address, released.tracker.link = .active address →
          ∃ headset, released.route.routed = some (.bluetoothHeadset headset)) := by
  intro released after
  have hConsistent : Consistent config.order released :=
    (consistent_run config platform moves).move (.operation .pump now)
  have hOwns : OwnsFocus held released :=
    perform_induction (fun _ beat hBefore => hBefore.beat hFocus beat)
      (ownsFocus_run hFocus hFree hMoves) .pump now
  have hPhase : released.phase = .activated := (phase_pumped _ now).trans hActivated
  have hRouting := hConsistent.activated.mpr hPhase
  have hAfter : after = { released.deactivateRoute with phase := .started } := by
    show released.disengage = _
    rw [disengage, if_neg (not_not.mpr hPhase)]
  obtain ⟨_, _, _, _, _, _, _, hRouted⟩ := hConsistent.toSteady.deactivateRoute
  rw [hAfter]
  exact ⟨rfl, hRouted, hOwns.held_deactivateRoute hFocus hRouting,
    hConsistent.toSteady.deactivateRoute_link_iff hRouting⟩

theorem deactivate_releases_headset :
    let config : SwitchConfig := ⟨.usual, usualLinkTimeout, true, false⟩
    let moves : List (Move Handset) := [.operation (.start none) 0, .operation .activate 0,
      .callback ⟨1, .bluetooth (.connected ⟨"Buds", "AA"⟩)⟩]
    let after := ((create config Handset.fresh).run moves).deactivate 0
    after.phase = .started ∧ after.host.platform.focusHeld = false ∧ after.tracker.link = .idle := by
  intro config moves
  simp only
  have hMoves : ∀ change, .platform change ∈ moves →
      ∀ platform : Handset, (change platform).focusHeld = true → platform.focusHeld = true := by
    intro change hMem
    simp [moves] at hMem
  have hActivated : ((create config Handset.fresh).run moves).phase = .activated := by decide
  have hRouted : (((create config Handset.fresh).run moves).pumped 0).route.routed =
    some (.bluetoothHeadset ⟨"Buds", "AA"⟩) := by decide
  have hReleased :=
    deactivate_releases_iff lawfulFocus_handset config Handset.fresh rfl hMoves hActivated 0
  obtain ⟨hPhase, _, hFree, hLink⟩ := hReleased
  exact ⟨hPhase, hFree, (hLink.mpr fun _ _ => ⟨_, hRouted⟩).1⟩

/-- A confirmation that comes after the jack took over leaves the link open for good. -/
theorem deactivate_leaves_link :
    let config : SwitchConfig := ⟨.wiredFirst, usualLinkTimeout, true, false⟩
    let switch := (create config Handset.fresh).handsetRun
      [.operation (.start none) 0, .operation .activate 0, .handset (.connect ⟨"Buds", "AA"⟩),
        .handset (.plug "Jack"), .operation .pump 0]
    let after := switch.deactivate 0
    switch.phase = .activated ∧ switch.host.queue = [] ∧ switch.tracker.link = .active "AA" ∧
      after.tracker.link = .active "AA" ∧ after.host.linkCommands = switch.host.linkCommands := by
  decide

end Switch

end CallAudio
