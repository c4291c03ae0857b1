import CallAudio.Proofs.Focus

/-! # Agreement of the layers

The switch, the route, the tracker and the platform each keep facts that another one keeps as well.
Between two steps they agree, whatever happened and in whatever order.
-/

namespace CallAudio

namespace Switch

variable {switch after : Switch Handset} {order : PreferredOrder}

def SharesFocus (switch : Switch Handset) : Prop :=
  switch.host.platform.focusHeld = switch.route.focusHeld

theorem SharesFocus.track (h : switch.SharesFocus) (hTracks : switch.TracksFocus after) :
    after.SharesFocus := by
  obtain ⟨issued, hIssued, hRoute⟩ := hTracks
  have hFocus := focusHeld_carried issued switch.host.platform
  rw [← hIssued.platform, h] at hFocus
  exact hFocus.trans hRoute.symm

theorem consistent_meetAll (config : SwitchConfig) (handset : Handset)
    (incidents : List Incident) :
    Consistent config.order ((create config handset).meetAll incidents) :=
  meetAll_induction (fun _ beat h => h.beat beat) (fun _ _ h => h.congr rfl rfl rfl rfl rfl)
    (fun _ _ h => h.congr rfl rfl rfl rfl rfl) (consistent_create config handset) incidents

theorem sharesFocus_meetAll (config : SwitchConfig) (incidents : List Incident) :
    ((create config Handset.fresh).meetAll incidents).SharesFocus := by
  refine meetAll_induction (fun switch beat h => h.track (tracksFocus_beat switch beat)) ?_
    (fun _ _ h => h) ?_ incidents
  · intro switch action h
    obtain ⟨_, _, _, hEq, hFocus⟩ := switch.host.react_eq action
    rw [SharesFocus, react, hEq]
    exact hFocus.trans h
  · have hSame := (Issued.writeAll (Host.ofPlatform Handset.fresh config.logging)
      [.debug "Creating audio switch" [("order", config.order.text),
        ("sco_timeout_ms", toString config.linkTimeout)], Selector.creationLine config.order]).platform
    exact congrArg Handset.focusHeld hSame

/-- In every run the phase is that of the route, the platform and the route agree on the focus, the
selected device is routed exactly while the route is routing, and a request that is not confirmed
yet is one for the routed headset. -/
theorem layers_agree (config : SwitchConfig) (incidents : List Incident) :
    let switch := (create config Handset.fresh).meetAll incidents
    (switch.phase = .activated ↔ switch.route.activated = true) ∧
      switch.host.platform.focusHeld = switch.route.focusHeld ∧
      (switch.route.focusHeld = true → switch.phase = .activated) ∧
      switch.route.routed = (if switch.route.isRouting then switch.selector.selected else none) ∧
      ∀ address since, switch.tracker.link = .activating address since →
        switch.route.isRouting = true ∧ ∃ headset, headset.address = address ∧
          switch.route.routed = some (.bluetoothHeadset headset) := by
  intro switch
  have h : Consistent config.order switch := consistent_meetAll config Handset.fresh incidents
  have hFocus : switch.SharesFocus := sharesFocus_meetAll config incidents
  refine ⟨h.activated.symm, hFocus, ?_, ?_, ?_⟩
  · intro hHeld
    exact h.activated.mp (h.focused hHeld)
  · cases hRouting : switch.route.isRouting with
    | true => exact h.heard hRouting
    | false => exact h.quiet hRouting
  · intro address since hLink
    exact h.activating hLink

/-- A declined activation, a second one that is granted, and a request that waits. -/
example : let config : SwitchConfig := ⟨.usual, usualLinkTimeout, true, false⟩
    let switch := (create config Handset.fresh).meetAll
      [.move (.handset (.setConfirmsLinks false)), .move (.operation (.start none) 0),
        .move (.handset (.setGrantsFocus false)), .move (.operation .activate 0),
        .move (.handset (.connect ⟨"Buds", "AA"⟩)), .move (.handset (.setGrantsFocus true)),
        .move (.operation .activate 7)]
    switch.tracker.link = .activating "AA" 7 ∧ switch.host.platform.focusHeld = true ∧
      switch.route.routed = some (.bluetoothHeadset ⟨"Buds", "AA"⟩) := by
  decide

end Switch

end CallAudio
