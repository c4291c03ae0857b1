import CallAudio.Proofs.Availability

/-! # The available devices are what is attached

As long as the handset alone reports what happens to it, a switch that runs and has no callback
waiting offers exactly what is attached to the handset, however operations, permissions, links and
sessions went on in between.
-/

namespace CallAudio.Switch

/-- Whether a move is one of the handset's own, which reports what happened to it and nothing else.
The earpiece neither comes nor goes during a session. -/
def faithful (switch : Switch Handset) : HandsetMove → Bool
  | .operation _ _ => true
  | .handset (.reportBluetooth (.connected _)) => false
  | .handset (.reportBluetooth (.disconnected _)) => false
  | .handset (.reportWired _) => false
  | .handset (.setRegisterRefusal _) => false
  | .handset (.setEarpiece on) =>
    switch.phase = .stopped || on = switch.host.platform.hasEarpiece
  | .handset _ => true

def faithfulRun (switch : Switch Handset) : List HandsetMove → Bool
  | [] => true
  | move :: moves => switch.faithful move && (switch.handsetMove move).faithfulRun moves

variable {order : PreferredOrder} {switch : Switch Handset}

/-- A change among the connected headsets reaches the tracker's queue, if the tracker listens. -/
theorem Mirrors.reportBluetooth (h : Mirrors switch.host.queue switch) {event : BluetoothEvent}
    {change : Handset → Handset}
    (hPlugged : (change switch.host.platform).plugged = switch.host.platform.plugged)
    (hRefusal : (change switch.host.platform).registerRefusal =
      switch.host.platform.registerRefusal)
    (hDistinct : ((change switch.host.platform).connected.map (·.address)).Nodup)
    (hReported : event.headsetsAfter switch.host.platform.connected.reverse =
      (change switch.host.platform).connected.reverse) :
    let host := (switch.host.adjust change).reportBluetooth event
    Mirrors host.queue { switch with host } := by
  have hReceiver := h.bluetooth
  have hJack := h.jack
  rw [← hPlugged] at hJack
  rw [Host.reportBluetooth]
  cases hListening : switch.tracker.listening with
  | false =>
    rw [hListening] at hReceiver
    have hNone : (switch.host.adjust change).bluetoothReceiver = none := hReceiver
    simp only [hNone]
    refine ⟨hDistinct, hRefusal.trans h.registerable, h.bluetooth, h.wired, h.running, h.registered,
      h.current, h.deaf, h.mute, ?_, hJack⟩
    exact fun hHears => absurd (hHears.symm.trans hListening) (by decide)
  | true =>
    rw [hListening] at hReceiver
    have hSome : (switch.host.adjust change).bluetoothReceiver = some switch.session := hReceiver
    simp only [hSome]
    refine ⟨hDistinct, hRefusal.trans h.registerable, h.bluetooth, h.wired, h.running, h.registered,
      ?_, ?_, ?_, ?_, ?_⟩
    · intro callback hMem
      rcases List.mem_append.mp hMem with hOld | hNew
      · exact h.current callback hOld
      · rw [List.mem_singleton.mp hNew]
    · exact fun hDeaf => absurd (hListening.symm.trans hDeaf) (by decide)
    · intro hMute callback hMem
      rcases List.mem_append.mp hMem with hOld | hNew
      · exact h.mute hMute callback hOld
      · exact ⟨event, by rw [List.mem_singleton.mp hNew]⟩
    · intro _
      simp only [Host.deliver]
      rw [List.foldl_append]
      exact (congrArg event.headsetsAfter (h.headsets hListening)).trans hReported
    · intro hRegistered
      simp only [Host.deliver]
      rw [List.foldl_append]
      exact hJack hRegistered

/-- A change in the jack reaches the tracker's queue, if the tracker is registered. -/
theorem Mirrors.reportWired (h : Mirrors switch.host.queue switch) {event : WiredEvent}
    {change : Handset → Handset}
    (hConnected : (change switch.host.platform).connected = switch.host.platform.connected)
    (hRefusal : (change switch.host.platform).registerRefusal =
      switch.host.platform.registerRefusal)
    (hReported : WiredTracker.headsetAfter event =
      (change switch.host.platform).plugged.map WiredTracker.shownName) :
    let host := (switch.host.adjust change).reportWired event
    Mirrors host.queue { switch with host } := by
  have hReceiver := h.wired
  have hHeadsets := h.headsets
  have hDistinct := h.distinct
  rw [← hConnected] at hHeadsets hDistinct
  rw [Host.reportWired]
  cases hRegistered : switch.wired.registered with
  | false =>
    rw [hRegistered] at hReceiver
    have hNone : (switch.host.adjust change).wiredReceiver = none := hReceiver
    simp only [hNone]
    refine ⟨hDistinct, hRefusal.trans h.registerable, h.bluetooth, h.wired, h.running, h.registered,
      h.current, h.deaf, h.mute, hHeadsets, ?_⟩
    exact fun hPlugs => absurd (hPlugs.symm.trans hRegistered) (by decide)
  | true =>
    rw [hRegistered] at hReceiver
    have hSome : (switch.host.adjust change).wiredReceiver = some switch.session := hReceiver
    simp only [hSome]
    refine ⟨hDistinct, hRefusal.trans h.registerable, h.bluetooth, h.wired, h.running, h.registered,
      ?_, ?_, ?_, ?_, ?_⟩
    · intro callback hMem
      rcases List.mem_append.mp hMem with hOld | hNew
      · exact h.current callback hOld
      · rw [List.mem_singleton.mp hNew]
    · intro hDeaf callback hMem
      rcases List.mem_append.mp hMem with hOld | hNew
      · exact h.deaf hDeaf callback hOld
      · exact ⟨event, by rw [List.mem_singleton.mp hNew]⟩
    · exact fun hMute => absurd (hRegistered.symm.trans hMute) (by decide)
    · intro hHears
      simp only [Host.deliver]
      rw [List.foldl_append]
      exact hHeadsets hHears
    · intro _
      simp only [Host.deliver]
      rw [List.foldl_append]
      exact hReported

theorem nodup_connect {connected : List Headset} (h : (connected.map (·.address)).Nodup)
    (headset : Headset) : ((connected.filter (·.address ≠ headset.address) ++ [headset]).map
      (·.address)).Nodup := by
  rw [List.map_append, List.nodup_append]
  refine ⟨h.sublist (List.filter_sublist.map _), by simp, ?_⟩
  intro address hOld other hNew hSame
  obtain ⟨old, hMem, rfl⟩ := List.mem_map.mp hOld
  obtain rfl : other = headset.address := by simpa using hNew
  simp [hSame] at hMem

theorem hasEarpiece_reportBluetooth (host : Host Handset) (event : BluetoothEvent) :
    (host.reportBluetooth event).platform.hasEarpiece = host.platform.hasEarpiece := by
  rw [Host.reportBluetooth]
  split <;> rfl

theorem hasEarpiece_reportWired (host : Host Handset) (event : WiredEvent) :
    (host.reportWired event).platform.hasEarpiece = host.platform.hasEarpiece := by
  rw [Host.reportWired]
  split <;> rfl

theorem InStep.react (h : InStep order switch) {action : HandsetAction}
    (hFaithful : switch.faithful (.handset action) = true) :
    InStep order (switch.react action) := by
  have hConsistent : Consistent order (switch.react action) :=
    h.toConsistent.congr rfl rfl rfl rfl rfl
  have hShown : (switch.react action).host.platform.hasEarpiece =
      switch.host.platform.hasEarpiece → Shown (switch.react action) :=
    h.shown.congr id rfl rfl rfl
  cases action with
  | connect headset =>
    refine ⟨hConsistent, h.mirrors.reportBluetooth rfl rfl
      (nodup_connect h.mirrors.distinct headset) ?_, h.plugs, hShown ?_⟩
    · simp [BluetoothEvent.headsetsAfter]
    · exact hasEarpiece_reportBluetooth _ _
  | disconnect address =>
    refine ⟨hConsistent, h.mirrors.reportBluetooth rfl rfl ?_ ?_, h.plugs, hShown ?_⟩
    · exact h.mirrors.distinct.sublist (List.filter_sublist.map _)
    · simp [BluetoothEvent.headsetsAfter]
    · exact hasEarpiece_reportBluetooth _ _
  | reportBluetooth event =>
    have hReported : event.headsetsAfter switch.host.platform.connected.reverse =
        switch.host.platform.connected.reverse := by
      cases event with
      | connected headset => cases hFaithful
      | disconnected address => cases hFaithful
      | _ => rfl
    have hMirrors := @Mirrors.reportBluetooth switch h.mirrors event id rfl rfl
      h.mirrors.distinct hReported
    exact ⟨hConsistent, hMirrors, h.plugs,
      hShown (hasEarpiece_reportBluetooth _ _)⟩
  | plug name =>
    exact ⟨hConsistent, h.mirrors.reportWired rfl rfl rfl, h.plugs,
      hShown (hasEarpiece_reportWired _ _)⟩
  | unplug =>
    exact ⟨hConsistent, h.mirrors.reportWired rfl rfl rfl, h.plugs,
      hShown (hasEarpiece_reportWired _ _)⟩
  | reportWired event => cases hFaithful
  | setRegisterRefusal reason => cases hFaithful
  | setEarpiece on =>
    refine ⟨hConsistent, ?_, h.plugs, ?_⟩
    · exact ⟨h.mirrors.distinct, h.mirrors.registerable, h.mirrors.bluetooth, h.mirrors.wired,
        h.mirrors.running, h.mirrors.registered, h.mirrors.current, h.mirrors.deaf, h.mirrors.mute,
        h.mirrors.headsets, h.mirrors.jack⟩
    · obtain hStopped | rfl : switch.phase = .stopped ∨ on = switch.host.platform.hasEarpiece := by
        simpa [faithful] using hFaithful
      · exact fun hRunning => absurd hStopped hRunning
      · exact hShown rfl
  | changeFocus change =>
    have hHost : Undisturbed [] switch.host (switch.host.changeFocus change) := by
      rw [Host.changeFocus]
      split
      · exact .notify _ _
      · exact .refl _
    exact ⟨hConsistent, h.mirrors.still _ id rfl rfl rfl rfl hHost, h.plugs,
      hShown hHost.hasEarpiece⟩
  | _ =>
    exact ⟨hConsistent, h.mirrors.still _ id rfl rfl rfl rfl
      ⟨rfl, rfl, rfl, rfl, rfl, rfl, (List.append_nil _).symm⟩, h.plugs, hShown rfl⟩

theorem InStep.move (h : InStep order switch) {move : HandsetMove}
    (hFaithful : switch.faithful move = true) : InStep order (switch.handsetMove move) := by
  cases move with
  | operation operation now =>
    have hBeat : ∀ (switch : Switch Handset) beat, InStep order switch →
        InStep order (switch.beat beat) := fun _ beat hBefore => hBefore.beat beat
    exact perform_induction hBeat h operation now
  | handset action => exact h.react hFaithful

theorem inStep_create (config : SwitchConfig) : InStep config.order (create config Handset.fresh) := by
  have hHost : Undisturbed [] (Host.ofPlatform Handset.fresh config.logging)
      (create config Handset.fresh).host := .writeAll _ _
  refine ⟨consistent_create config Handset.fresh, ⟨?_, ?_, ?_, ?_, ?_, ?_, ?_, ?_, ?_, ?_, ?_⟩,
    fun hRunning => absurd rfl hRunning, fun hRunning => absurd rfl hRunning⟩
  · rw [hHost.connected]
    exact .nil
  · exact hHost.registerRefusal
  · exact hHost.bluetoothReceiver
  · exact hHost.wiredReceiver
  · rintro ⟨⟩
  · rintro ⟨⟩
  · rw [hHost.queue]
    simp [Host.ofPlatform]
  · rw [hHost.queue]
    simp [Host.ofPlatform]
  · rw [hHost.queue]
    simp [Host.ofPlatform]
  · rintro ⟨⟩
  · rintro ⟨⟩

theorem inStep_run {config : SwitchConfig} {moves : List HandsetMove}
    (h : (create config Handset.fresh).faithfulRun moves = true) :
    InStep config.order ((create config Handset.fresh).handsetRun moves) := by
  have hBegin := inStep_create config
  generalize create config Handset.fresh = switch at hBegin h
  induction moves generalizing switch with
  | nil => exact hBegin
  | cons move moves ih =>
    obtain ⟨hMove, hMoves⟩ := (Bool.and_eq_true _ _).mp h
    exact ih _ (hBegin.move hMove) hMoves

/-- What is attached to a handset, the latest connection first; `gate` says whether headsets count. -/
def attached (handset : Handset) (gate : Bool) : List Device :=
  (if gate then handset.connected.reverse.map .bluetoothHeadset else []) ++
    (handset.plugged.map fun name => .wiredHeadset (WiredTracker.shownName name)).toList ++
    (if handset.hasEarpiece then [.earpiece] else []) ++ [.speakerphone]

/-- A switch that runs and has no callback waiting offers what is attached to its handset. -/
theorem available_eq_attached {config : SwitchConfig} {moves : List HandsetMove}
    (hFaithful : (create config Handset.fresh).faithfulRun moves = true)
    (hRunning : ((create config Handset.fresh).handsetRun moves).phase ≠ .stopped)
    (hQueue : ((create config Handset.fresh).handsetRun moves).host.queue = []) :
    let switch := (create config Handset.fresh).handsetRun moves
    switch.selector.available =
      config.order.arrange (attached switch.host.platform switch.tracker.listening) := by
  intro switch
  have h : InStep config.order switch := inStep_run hFaithful
  have hMirrors := h.mirrors
  rw [show switch.host.queue = [] from hQueue] at hMirrors
  rw [h.shown hRunning, h.order]
  have hHeadsets : switch.tracker.headsets =
      if switch.tracker.listening then switch.host.platform.connected.reverse else [] := by
    split
    · rename_i hListening
      exact hMirrors.headsets hListening
    · rename_i hDeaf
      exact h.sound.silent (by simpa using hDeaf)
  have hJack : switch.wired.headset = switch.host.platform.plugged.map WiredTracker.shownName :=
    hMirrors.jack (h.plugs hRunning)
  have hList : switch.roster switch.host.platform.hasEarpiece =
      attached switch.host.platform switch.tracker.listening := by
    rw [roster, attached, hHeadsets, WiredTracker.device?, hJack, Option.map_map]
    cases switch.tracker.listening <;> rfl
  rw [hList]

/-- A headset connected before the start, one connected later and the first one renamed, a jack with a
blank name: all of it is there after a pump. -/
theorem available_after_rename :
    let switch := (create ⟨.usual, usualLinkTimeout, true, false⟩ Handset.fresh).handsetRun
      [.handset (.connect ⟨"Buds", "AA"⟩), .handset (.plug " "), .operation (.start none) 0,
        .handset (.connect ⟨"Car", "BB"⟩), .handset (.connect ⟨"Pods", "AA"⟩), .operation .pump 0]
    switch.phase ≠ .stopped ∧ switch.host.queue = [] ∧
      switch.selector.available =
        [.bluetoothHeadset ⟨"Pods", "AA"⟩, .bluetoothHeadset ⟨"Car", "BB"⟩,
          .wiredHeadset "Wired Headset", .earpiece, .speakerphone] := by
  refine ⟨by decide, by decide, ?_⟩
  refine (available_eq_attached (by decide) (by decide) (by decide)).trans ?_
  decide

end CallAudio.Switch
