import CallAudio.Proofs.Registration

/-! # Operations keep the switch in step with its handset

A switch that is in step mirrors its handset and offers what it knows. Whatever the application asks
for, in whatever session, leaves it in step.
-/

namespace CallAudio.Switch

structure InStep (order : PreferredOrder) (switch : Switch Handset) : Prop
    extends Consistent order switch where
  mirrors : Mirrors switch.host.queue switch
  plugs : switch.phase ≠ .stopped → switch.wired.registered = true
  shown : Shown switch

variable {order : PreferredOrder} {switch after : Switch Handset}

theorem Reroutes.roster (h : switch.Reroutes after) : after.roster = switch.roster := by
  funext earpiece
  rw [Switch.roster, Switch.roster, h.steps.headsets.2.1, h.wired]

theorem Reroutes.hasEarpiece (h : switch.Reroutes after) :
    after.host.platform.hasEarpiece = switch.host.platform.hasEarpiece := by
  obtain ⟨_, _, hHost⟩ := h.steps.undisturbed
  exact hHost.hasEarpiece

theorem Shown.congr (h : Shown switch) (hPhase : after.phase ≠ .stopped → switch.phase ≠ .stopped)
    (hSelector : after.selector.available = switch.selector.available)
    (hOrder : after.selector.order = switch.selector.order) (hRoster : after.roster = switch.roster)
    (hEarpiece : after.host.platform.hasEarpiece = switch.host.platform.hasEarpiece) :
    Shown after := by
  intro hRunning
  rw [hSelector, hOrder, hRoster, hEarpiece]
  exact h (hPhase hRunning)

theorem Shown.reroute (h : Shown switch) (hReroutes : switch.Reroutes after)
    (hAvailable : after.selector.available = switch.selector.available) : Shown after :=
  h.congr (fun hRunning => hReroutes.phase ▸ hRunning) hAvailable hReroutes.order hReroutes.roster
    hReroutes.hasEarpiece

theorem shown_recompute (h : switch.tracker.Sound) (rejected : List Device) :
    Shown (switch.recompute rejected) := by
  intro _
  have hReroutes := reroutes_recompute switch rejected
  have hCandidates : switch.candidates = switch.roster switch.host.platform.hasEarpiece :=
    candidates_eq_roster h
  rw [hReroutes.order, hReroutes.roster, hReroutes.hasEarpiece, ← hCandidates]
  exact Selector.available_recompute

theorem Shown.routeWithin (h : Shown switch) (hSound : switch.tracker.Sound) (tries : Nat)
    (rejected : List Device) (now : Nat) : Shown (switch.routeWithin tries rejected now) := by
  induction tries generalizing switch rejected with
  | zero => exact h
  | succ tries ih =>
    have hOnce := reroutes_routeOnce switch now
    cases hResult : (switch.routeOnce now).1 with
    | ok =>
      rw [routeWithin_ok hResult]
      exact h.reroute hOnce rfl
    | error error =>
      cases hSelected : switch.selector.selected with
      | none => simpa [Switch.routeWithin, hSelected] using h.reroute hOnce rfl
      | some device =>
        rw [routeWithin_error hResult hSelected]
        have hWritten := hOnce.trans (reroutes_write _ (unroutedLine device error))
        split
        · exact h.reroute hWritten rfl
        · have hUnpinned := hWritten.trans ((reroutes_unpin _ device).trans
            (reroutes_notifyHeadset _ ⟨.activationError, device⟩))
          have hFallen := hWritten.trans (reroutes_fallBack _ device (rejected ++ [device]))
          exact ih (shown_recompute (hUnpinned.steps.sound hSound) _)
            (hFallen.steps.sound hSound) _

theorem Shown.announce (h : Shown switch) (view : List Device × Option Device) :
    Shown (switch.announce view) := by
  refine h.reroute (reroutes_announce switch view) ?_
  rw [Switch.announce]
  split <;> rfl

theorem shown_refreshSince (h : switch.tracker.Sound) (view : List Device × Option Device)
    (now : Nat) : Shown (switch.refreshSince view now) := by
  have hSound := (reroutes_recompute switch []).steps.sound h
  have hRouted : Shown ((switch.recompute []).applyRoute now) :=
    (shown_recompute h []).routeWithin hSound _ [] now
  exact hRouted.announce view

theorem InStep.refreshSince (h : Mirrors switch.host.queue switch) (hSteady : Steady order switch)
    (hUnspoiled : switch.Unspoiled) (hRunning : switch.phase ≠ .stopped)
    (hPlugs : switch.wired.registered = true) (view : List Device × Option Device) (now : Nat) :
    InStep order (switch.refreshSince view now) := by
  have hReroutes := reroutes_refreshSince switch view now
  refine ⟨hSteady.refreshSince hUnspoiled hRunning view now, hReroutes.mirrors_queue h, fun _ => ?_,
    shown_refreshSince hSteady.sound view now⟩
  rw [hReroutes.wired]
  exact hPlugs

theorem InStep.handle {callback : Callback} (h : Consistent order switch)
    (hMirrors : Mirrors (callback :: switch.host.queue) switch) (hShown : Shown switch)
    (hPlugs : switch.wired.registered = true) (now : Nat) :
    InStep order (switch.handle callback now) := by
  have hApplied : Mirrors (switch.applyCallback callback).2.host.queue
      (switch.applyCallback callback).2 := @Mirrors.applyCallback switch callback [] hMirrors
  cases hChanged : (switch.applyCallback callback).1 with
  | false =>
    obtain ⟨lines, hSame⟩ := applyCallback_unchanged hChanged
    rw [hSame] at hApplied
    rw [handle_unchanged hChanged, hSame]
    refine ⟨h.congr rfl rfl rfl rfl rfl, hApplied, fun _ => hPlugs, ?_⟩
    exact hShown.congr id rfl rfl rfl (Undisturbed.writeAll switch.host lines).hasEarpiece
  | true =>
    rw [handle_changed hChanged]
    refine InStep.refreshSince hApplied (h.toSteady.applyCallback callback)
      (h.unspoiled.applyCallback h.sound h.anchored callback) ?_ ?_ _ now
    · rw [phase_applyCallback]
      exact running_of_changed hChanged
    · rw [registered_applyCallback, hPlugs]

theorem InStep.next (h : InStep order switch) (now : Nat) :
    InStep order ((switch.next? now).getD switch) := by
  rw [next?]
  split
  · exact h
  · rename_i callback rest hQueue
    have hMirrors := h.mirrors
    rw [hQueue] at hMirrors
    have hRunning := hMirrors.running_of_mem List.mem_cons_self
    have hTaken : Consistent order (switch.requeue rest) := h.toConsistent.requeue rest
    refine InStep.handle hTaken ?_ (h.shown.congr id rfl rfl rfl rfl) (h.plugs hRunning) now
    exact ⟨hMirrors.distinct, hMirrors.registerable, hMirrors.bluetooth, hMirrors.wired,
      hMirrors.running, hMirrors.registered, hMirrors.current, hMirrors.deaf, hMirrors.mute,
      hMirrors.headsets, hMirrors.jack⟩

theorem InStep.poll (h : InStep order switch) (now : Nat) : InStep order (switch.poll now) := by
  rcases h.poll_cases now with
    hSame | ⟨_, _, _, _, _, _, hReroutes, hSteady, hUnspoiled, hRunning, hRefresh⟩
  · rwa [hSame]
  · rw [hRefresh]
    refine InStep.refreshSince (hReroutes.mirrors_queue h.mirrors) hSteady hUnspoiled hRunning ?_ _
      now
    rw [hReroutes.wired]
    exact h.plugs (hReroutes.phase ▸ hRunning)

theorem forgive_frame (tracker : Tracker) (device : Device) :
    (tracker.forgive device).listening = tracker.listening ∧
      (tracker.forgive device).headsets = tracker.headsets := by
  rcases Tracker.forgive_eq tracker device with hSame | ⟨address, hClear⟩
  · rw [hSame]
    exact ⟨rfl, rfl⟩
  · rw [hClear]
    exact ⟨rfl, rfl⟩

theorem InStep.write (h : InStep order switch) (line : LogLine) :
    InStep order (switch.write line) :=
  ⟨h.toConsistent.congr rfl rfl rfl rfl rfl, (reroutes_write switch line).mirrors_queue h.mirrors,
    h.plugs, h.shown.reroute (reroutes_write switch line) rfl⟩

theorem InStep.choose (h : InStep order switch) (device : Device) (now : Nat) :
    InStep order (switch.choose device now) := by
  rw [Switch.choose]
  split
  · exact h.write _
  rename_i hRunning
  split
  · exact h.write _
  rename_i hMem
  have hMem : device ∈ switch.selector.available := by simpa using hMem
  obtain ⟨hListening, hHeadsets⟩ := forgive_frame switch.tracker device
  have hMirrors : Mirrors (switch.pinTo device).host.queue (switch.pinTo device) :=
    h.mirrors.still _ id rfl rfl hListening hHeadsets (.refl _)
  exact InStep.refreshSince hMirrors (h.toSteady.pinTo hRunning device)
    (unspoiled_pinTo h.sound hMem) hRunning (h.plugs hRunning) _ now

theorem InStep.unchoose (h : InStep order switch) (now : Nat) :
    InStep order (switch.unchoose now) := by
  rw [Switch.unchoose]
  split
  · exact h
  rename_i hPinned
  have hRunning : switch.phase ≠ .stopped := fun hStopped => hPinned (.inl hStopped)
  have hFreed : Steady order { switch with selector := switch.selector.clearPin } :=
    h.toSteady.reselect hRunning rfl rfl rfl rfl
  refine InStep.refreshSince ?_ hFreed (unspoiled_of_free rfl) hRunning (h.plugs hRunning) _ now
  exact h.mirrors.still _ id rfl rfl rfl rfl (.refl _)

theorem InStep.engage (h : InStep order switch) (now : Nat) :
    InStep order (switch.engage now).2 := by
  have hConsistent := h.toConsistent.engage now
  have hHost := Undisturbed.activate switch.route switch.host
  rw [Switch.engage] at hConsistent ⊢
  split
  · exact h
  rename_i hRunning
  rw [if_neg hRunning] at hConsistent
  generalize switch.route.activate switch.host = taken at *
  obtain ⟨result, route, host⟩ := taken
  simp only at hHost hConsistent ⊢
  generalize hEngaged : ({ switch with phase := .activated, route, host } : Switch Handset) =
    engaged at *
  have hMirrors : Mirrors engaged.host.queue engaged := by
    subst hEngaged
    exact h.mirrors.still _ (fun _ => by simp) rfl rfl rfl rfl hHost
  have hShown : Shown engaged := by
    subst hEngaged
    exact h.shown.congr (fun _ => hRunning) rfl rfl rfl hHost.hasEarpiece
  have hPlugs : engaged.wired.registered = true := by
    subst hEngaged
    exact h.plugs hRunning
  have hSound : engaged.tracker.Sound := by
    subst hEngaged
    exact h.sound
  cases result with
  | error error =>
    have hWritten := reroutes_write engaged
      (.warn "Activation side effects skipped" [("error", error.message)])
    exact ⟨hConsistent, hWritten.mirrors_queue hMirrors, fun _ => hPlugs,
      hShown.reroute hWritten rfl⟩
  | ok =>
    have hApplied := (reroutes_applyRoute engaged now).trans (reroutes_announce _ engaged.view)
    have hRouted : Shown (engaged.applyRoute now) := hShown.routeWithin hSound _ [] now
    exact ⟨hConsistent, hApplied.mirrors_queue hMirrors, fun _ => hApplied.wired ▸ hPlugs,
      hRouted.announce _⟩

theorem InStep.disengage (h : InStep order switch) : InStep order switch.disengage := by
  have hHost := Undisturbed.deactivate switch.route switch.tracker.listening? switch.host
  obtain ⟨_, _, hListening, hHeadsets, _⟩ := h.toSteady.deactivateRoute
  have hConsistent := h.toConsistent.disengage
  rw [Switch.disengage] at hConsistent ⊢
  split
  · exact h
  rename_i hPhase
  rw [if_neg hPhase] at hConsistent
  have hRunning : switch.phase ≠ .stopped := by
    intro hStopped
    simp [hStopped] at hPhase
  have hRoster : ({ switch.deactivateRoute with phase := .started } : Switch Handset).roster =
      switch.roster := by
    funext earpiece
    rw [roster, roster]
    exact congrArg (fun headsets => List.map _ headsets ++ _ ++ _ ++ _) hHeadsets
  exact ⟨hConsistent, h.mirrors.still _ (fun _ => by simp) rfl rfl hListening
    hHeadsets hHost,
    fun _ => h.plugs hRunning,
    h.shown.congr (fun _ => hRunning) rfl rfl hRoster hHost.hasEarpiece⟩

theorem hasEarpiece_startBluetooth (h : switch.tracker.listening = false) :
    switch.startBluetooth.host.platform.hasEarpiece = switch.host.platform.hasEarpiece := by
  rw [Switch.startBluetooth]
  rcases Tracker.startPermitted_eq h switch.session switch.host with
    ⟨error, hRefused⟩ | ⟨line, hOpened⟩
  · rw [hRefused]
    exact (Undisturbed.write switch.host _).hasEarpiece
  · rw [hOpened]
    exact (Undisturbed.write _ line).hasEarpiece

theorem InStep.startBluetooth (h : InStep order switch) (hRunning : switch.phase ≠ .stopped)
    (hDeaf : switch.tracker.listening = false) : InStep order switch.startBluetooth := by
  have hMirrors := h.mirrors.startBluetooth hDeaf (h.sound.silent hDeaf) hRunning
  have hEarpiece := hasEarpiece_startBluetooth hDeaf
  have hConsistent := h.toConsistent.startBluetooth hRunning
  obtain ⟨listening, host, hEq, _⟩ := startBluetooth_eq switch
  rw [hEq] at hMirrors hEarpiece hConsistent ⊢
  exact ⟨hConsistent, hMirrors, h.plugs, h.shown.congr id rfl rfl rfl hEarpiece⟩

theorem InStep.resume (h : InStep order switch) : InStep order switch.resume := by
  rw [Switch.resume]
  split
  · rename_i hResumable
    have hDeaf : switch.tracker.listening = false := by
      by_contra hListening
      simp [resumable, hListening] at hResumable
    have hRunning : switch.phase ≠ .stopped := by
      intro hStopped
      simp [resumable, hStopped] at hResumable
    exact (h.write _).startBluetooth hRunning hDeaf
  · exact h

theorem stop_host (tracker : Tracker) (host : Host Handset) :
    let left := (tracker.stop host).2
    left.platform.connected = host.platform.connected ∧
      left.platform.registerRefusal = host.platform.registerRefusal ∧
      left.wiredReceiver = host.wiredReceiver ∧
      left.bluetoothReceiver = if tracker.listening then none else host.bluetoothReceiver := by
  have hClosed := Undisturbed.closeLink tracker host
  rw [Tracker.stop]
  cases tracker.listening with
  | false => exact ⟨rfl, rfl, rfl, rfl⟩
  | true =>
    generalize tracker.closeLink host = closed at *
    have hWritten := Undisturbed.write closed.2.stopListening
      (.info "Bluetooth headset tracking stopped" [])
    exact ⟨hWritten.connected.trans hClosed.connected,
      hWritten.registerRefusal.trans hClosed.registerRefusal,
      hWritten.wiredReceiver.trans hClosed.wiredReceiver, hWritten.bluetoothReceiver⟩

theorem mirrors_leave (h : Mirrors switch.host.queue switch) (hSound : switch.tracker.Sound) :
    Mirrors switch.leave.host.queue switch.leave := by
  obtain ⟨hConnected, hRefusal, hWired, hBluetooth⟩ := stop_host switch.tracker switch.host
  have hTracker := tracker_stop hSound switch.host
  have hReceiver : (switch.tracker.stop switch.host).2.bluetoothReceiver = none := by
    rw [hBluetooth, h.bluetooth]
    cases switch.tracker.listening <;> rfl
  have hPlugs := h.wired
  rw [leave, WiredTracker.stop]
  generalize switch.tracker.stop switch.host = left at *
  refine ⟨?_, ?_, ?_, ?_, ?_, ?_, ?_, ?_, ?_, ?_, ?_⟩
  · cases switch.wired.registered <;> exact hConnected ▸ h.distinct
  · cases switch.wired.registered <;> exact hRefusal.trans h.registerable
  · simp only [hTracker]
    cases switch.wired.registered <;> exact hReceiver
  · cases hRegistered : switch.wired.registered with
    | true => rfl
    | false =>
      rw [hRegistered] at hPlugs
      exact hWired.trans hPlugs
  · simp [hTracker, Tracker.idle]
  · rintro ⟨⟩
  · simp
  · simp
  · simp
  · simp [hTracker, Tracker.idle]
  · rintro ⟨⟩

theorem InStep.stop (h : InStep order switch) : InStep order switch.stop := by
  have hConsistent := h.toConsistent.stop
  rw [Switch.stop] at hConsistent ⊢
  split
  · exact h
  rename_i hRunning
  rw [if_neg hRunning] at hConsistent
  have hWritten := h.write (.info "Stopping audio switch" [])
  generalize switch.write (.info "Stopping audio switch" []) = written at *
  obtain ⟨hSound, _, hListening, hHeadsets, _⟩ := hWritten.toSteady.deactivateRoute
  have hSilenced := hWritten.mirrors.still written.deactivateRoute id rfl rfl hListening hHeadsets
    (.deactivate _ _ _)
  exact ⟨hConsistent, mirrors_leave hSilenced hSound, fun hRuns => absurd rfl hRuns,
    fun hRuns => absurd rfl hRuns⟩

theorem mirrors_absorb (h : Mirrors switch.host.queue switch) :
    Mirrors switch.absorb.host.queue switch.absorb ∧
      switch.absorb.wired.registered = switch.wired.registered := by
  rw [absorb]
  have hTaken : Mirrors (switch.host.queue ++ [])
      { switch with host := { switch.host with queue := [] } } := by
    rw [List.append_nil]
    exact ⟨h.distinct, h.registerable, h.bluetooth, h.wired, h.running, h.registered, h.current,
      h.deaf, h.mute, h.headsets, h.jack⟩
  revert hTaken
  generalize hBegin : ({ switch with host := { switch.host with queue := [] } } : Switch Handset) =
    begin
  have hQueue : begin.host.queue = [] := by rw [← hBegin]
  have hRegistered : begin.wired.registered = switch.wired.registered := by rw [← hBegin]
  rw [← hQueue]
  clear hBegin hQueue h
  generalize switch.host.queue = queue
  induction queue generalizing begin with
  | nil => exact fun hTaken => ⟨hTaken, hRegistered⟩
  | cons callback queue ih =>
    intro hTaken
    exact ih _ ((registered_applyCallback begin callback).trans hRegistered) hTaken.applyCallback

theorem mirrors_enter (h : Mirrors switch.host.queue switch) (hStopped : switch.phase = .stopped)
    (listener : Option Nat) :
    Mirrors (switch.enter listener).host.queue (switch.enter listener) := by
  have hDeaf : switch.tracker.listening = false :=
    Bool.eq_false_iff.mpr fun hListening => h.running hListening hStopped
  have hMute : switch.wired.registered = false :=
    Bool.eq_false_iff.mpr fun hRegistered => h.registered hRegistered hStopped
  have hEmpty : switch.host.queue = [] :=
    List.eq_nil_iff_forall_not_mem.mpr fun _ hMem => h.running_of_mem hMem hStopped
  obtain ⟨hStarted, hTracker, _, _, hWired, line, hHost⟩ := enter_eq switch listener
  have hSame := Undisturbed.write switch.host line
  have hBluetooth := h.bluetooth
  have hPlugs := h.wired
  rw [hDeaf] at hBluetooth
  rw [hMute] at hPlugs
  refine ⟨?_, ?_, ?_, ?_, ?_, ?_, ?_, ?_, ?_, ?_, ?_⟩
  all_goals simp only [hHost, hTracker, hWired, hDeaf, hMute, hStarted, Host.queue_write, hEmpty,
    Host.bluetoothReceiver_write, Host.wiredReceiver_write, Host.platform_write]
  · exact h.distinct
  · exact h.registerable
  · exact hBluetooth
  · exact hPlugs
  all_goals simp

theorem InStep.start (h : InStep order switch) (listener : Option Nat) (now : Nat) :
    InStep order (switch.start listener now) := by
  have hConsistent := h.toConsistent.start listener now
  rw [Switch.start] at hConsistent ⊢
  split
  · exact h.write _
  rename_i hPhase
  rw [if_neg hPhase] at hConsistent
  have hStopped : switch.phase = .stopped := by simpa using hPhase
  obtain ⟨hBegun, _, _⟩ := h.begin hStopped listener
  obtain ⟨hStarted, hTracker, _, _, hWired, _⟩ := enter_eq switch listener
  have hRunning : (switch.enter listener).phase ≠ .stopped := by
    rw [hStarted]
    decide
  have hDeaf : (switch.enter listener).tracker.listening = false := by
    rw [hTracker]
    exact (h.stopped hStopped).1
  have hNone : (switch.enter listener).tracker.headsets = [] := by
    rw [hTracker]
    exact h.sound.silent (h.stopped hStopped).1
  have hEntered := (mirrors_enter h.mirrors hStopped listener).startBluetooth hDeaf hNone hRunning
  have hMute : (switch.enter listener).startBluetooth.wired.registered = false := by
    obtain ⟨_, _, hEq, _⟩ := startBluetooth_eq (switch.enter listener)
    rw [hEq, hWired]
    exact Bool.eq_false_iff.mpr fun hRegistered => h.mirrors.registered hRegistered hStopped
  have hKnown : (switch.enter listener).startBluetooth.phase ≠ .stopped := by
    obtain ⟨_, _, hEq, _⟩ := startBluetooth_eq (switch.enter listener)
    rwa [hEq]
  obtain ⟨hRegistered, hPlugs⟩ := hEntered.startWired hMute hKnown
  obtain ⟨hAbsorbed, hKept⟩ := mirrors_absorb hRegistered
  generalize (switch.enter listener).startBluetooth.startWired.absorb = begun at *
  have hReroutes := ((reroutes_recompute begun []).trans (reroutes_applyRoute _ now)).trans
    (reroutes_notifyDevices _)
  have hShown : Shown ((begun.recompute []).applyRoute now) :=
    (shown_recompute hBegun.sound []).routeWithin
      ((reroutes_recompute begun []).steps.sound hBegun.sound) _ [] now
  refine ⟨hConsistent, hReroutes.mirrors_queue hAbsorbed, fun _ => ?_,
    hShown.reroute (reroutes_notifyDevices _) rfl⟩
  rw [hReroutes.wired, hKept, hPlugs]

theorem InStep.beat (h : InStep order switch) (beat : Beat) : InStep order (switch.beat beat) := by
  cases beat with
  | callback now => exact h.next now
  | poll now => exact h.poll now
  | act operation now =>
    cases operation with
    | start listener => exact h.start listener now
    | stop => exact h.stop
    | activate => exact h.engage now
    | deactivate => exact h.disengage
    | select device => exact h.choose device now
    | clearSelection => exact h.unchoose now
    | hostResumed => exact h.resume
    | pump | poll | next => exact h
    | setDeviceListener listener =>
      exact ⟨h.toConsistent.beat (.act (.setDeviceListener listener) now),
        h.mirrors.still _ id rfl rfl rfl rfl (.refl _), h.plugs, h.shown.congr id rfl rfl rfl rfl⟩
    | setHeadsetListener listener =>
      exact ⟨h.toConsistent.beat (.act (.setHeadsetListener listener) now),
        h.mirrors.still _ id rfl rfl rfl rfl (.refl _), h.plugs, h.shown.congr id rfl rfl rfl rfl⟩
    | setFocusListener listener =>
      exact ⟨h.toConsistent.beat (.act (.setFocusListener listener) now),
        h.mirrors.still _ id rfl rfl rfl rfl (.refl _), h.plugs, h.shown.congr id rfl rfl rfl rfl⟩
    | setLogging on =>
      have hHost : Undisturbed [] switch.host (switch.setLogging on).host :=
        ⟨rfl, rfl, rfl, rfl, rfl, rfl, (List.append_nil _).symm⟩
      exact ⟨h.toConsistent.beat (.act (.setLogging on) now),
        h.mirrors.still _ id rfl rfl rfl rfl hHost, h.plugs, h.shown.congr id rfl rfl rfl rfl⟩

end CallAudio.Switch
