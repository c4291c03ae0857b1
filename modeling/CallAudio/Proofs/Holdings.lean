import CallAudio.Proofs.Operations

/-! # What a switch holds of its platform

A receiver is registered exactly while its tracker listens, and in the present session. Settings are
kept only during an activation, and the platform knows a focus listener only while focus is held.
What is fixed for the lifetime of a switch stays as it was configured.
-/

namespace CallAudio

variable {σ : Type}

def Host.registrations (host : Host σ) : Option Nat × Option Nat × Option Nat :=
  (host.bluetoothReceiver, host.wiredReceiver, host.focusListener)

@[simp] theorem Host.registrations_write (host : Host σ) (line : LogLine) :
    (host.write line).registrations = host.registrations := by
  unfold Host.write
  split <;> rfl

@[simp] theorem Host.registrations_writeAll (host : Host σ) (lines : List LogLine) :
    (host.writeAll lines).registrations = host.registrations := by
  induction lines generalizing host with
  | nil => rfl
  | cons line lines ih => exact (ih (host.write line)).trans (registrations_write host line)

@[simp] theorem Host.registrations_reportBluetooth (host : Host σ) (event : BluetoothEvent) :
    (host.reportBluetooth event).registrations = host.registrations := by
  obtain ⟨_, hEq⟩ := host.reportBluetooth_eq event
  rw [hEq]
  rfl

theorem Host.registrations_react (host : Host Handset) (action : HandsetAction) :
    (host.react action).registrations = host.registrations := by
  obtain ⟨_, _, _, hEq, _⟩ := host.react_eq action
  rw [hEq]
  rfl

variable [Platform σ]

theorem Host.registrations_enableLink (host : Host σ) (address : String) :
    (host.enableLink address).2.registrations = host.registrations := by
  rw [Host.enableLink]
  cases Platform.linkAnswer host.platform address with
  | confirmed => exact Host.registrations_reportBluetooth _ _
  | _ => rfl

theorem LinkStep.registrations {before after : Tracker × Host σ} (h : LinkStep before after) :
    after.2.registrations = before.2.registrations ∧ after.1.timeout = before.1.timeout := by
  cases h with
  | write tracker host line => exact ⟨Host.registrations_write host line, rfl⟩
  | «open» tracker host address => exact ⟨Host.registrations_enableLink host address, rfl⟩
  | refuse tracker host address => exact ⟨Host.registrations_enableLink host address, rfl⟩
  | _ => exact ⟨rfl, rfl⟩

theorem LinkSteps.registrations {before after : Tracker × Host σ} (h : LinkSteps before after) :
    after.2.registrations = before.2.registrations ∧ after.1.timeout = before.1.timeout := by
  induction h with
  | refl => exact ⟨rfl, rfl⟩
  | tail _ hLast ih =>
    obtain ⟨hLater, hTimeout⟩ := hLast.registrations
    exact ⟨hLater.trans ih.1, hTimeout.trans ih.2⟩

theorem Tracker.timeout_apply (tracker : Tracker) (event : BluetoothEvent) :
    (tracker.apply event).timeout = tracker.timeout := by
  cases event with
  | connected headset => rfl
  | _ =>
    rw [Tracker.apply]
    split <;> rfl

namespace Switch

/-- What is registered, kept or configured answers to what the parts of the switch are doing. -/
structure Tidy (config : SwitchConfig) (switch : Switch σ) : Prop where
  timeout : switch.tracker.timeout = config.linkTimeout
  managesAudio : switch.route.managesAudio = config.managesAudio
  saved : switch.route.activated = false → switch.route.saved = none
  focus : switch.route.focusHeld = false → switch.host.focusListener = none
  bluetooth : switch.host.bluetoothReceiver =
    if switch.tracker.listening then some switch.session else none
  wired : switch.host.wiredReceiver =
    if switch.wired.registered then some switch.session else none
  listening : switch.tracker.listening = true → switch.phase ≠ .stopped
  registered : switch.wired.registered = true → switch.phase ≠ .stopped

variable {config : SwitchConfig} {switch after : Switch σ}

omit [Platform σ] in
theorem tidy_create (config : SwitchConfig) (platform : σ) :
    Tidy config (create config platform) := by
  have hHost : (create config platform).host.registrations = (none, none, none) :=
    Host.registrations_writeAll _ _
  obtain ⟨hBluetooth, hWired, hFocus⟩ : _ ∧ _ ∧ _ := by
    simpa [Host.registrations] using hHost
  exact ⟨rfl, rfl, fun _ => rfl, fun _ => hFocus, hBluetooth, hWired, by rintro ⟨⟩, by rintro ⟨⟩⟩

omit [Platform σ] in
theorem Consistent.activated_of_stopped {order : PreferredOrder} (h : Consistent order switch)
    (hStopped : switch.phase = .stopped) : switch.route.activated = false := by
  refine Bool.eq_false_iff.mpr fun hActivated => ?_
  exact absurd ((h.activated.mp hActivated).symm.trans hStopped) (by decide)

omit [Platform σ] in
theorem Consistent.focusHeld_of_stopped {order : PreferredOrder} (h : Consistent order switch)
    (hStopped : switch.phase = .stopped) : switch.route.focusHeld = false := by
  refine Bool.eq_false_iff.mpr fun hHeld => ?_
  exact absurd ((h.focused hHeld).symm.trans (h.activated_of_stopped hStopped)) (by decide)

omit [Platform σ] in
theorem Tidy.registrations_of_stopped {order : PreferredOrder} (h : Tidy config switch)
    (hConsistent : Consistent order switch) (hStopped : switch.phase = .stopped) :
    switch.host.registrations = (none, none, none) := by
  have hDeaf : switch.tracker.listening = false :=
    Bool.eq_false_iff.mpr fun hListening => h.listening hListening hStopped
  have hMute : switch.wired.registered = false :=
    Bool.eq_false_iff.mpr fun hRegistered => h.registered hRegistered hStopped
  rw [Host.registrations, h.bluetooth, h.wired, hDeaf, hMute,
    h.focus (hConsistent.focusHeld_of_stopped hStopped)]
  rfl

omit [Platform σ] in
/-- Only what is registered, held or configured is of account. -/
theorem Tidy.congr (h : Tidy config switch)
    (hPhase : switch.phase ≠ .stopped → after.phase ≠ .stopped)
    (hSession : after.session = switch.session)
    (hTimeout : after.tracker.timeout = switch.tracker.timeout)
    (hListening : after.tracker.listening = switch.tracker.listening)
    (hRegistered : after.wired.registered = switch.wired.registered)
    (hRoute : ∃ focusListener routed, after.route = { switch.route with focusListener, routed })
    (hHost : after.host.registrations = switch.host.registrations) : Tidy config after := by
  obtain ⟨focusListener, routed, hRoute⟩ := hRoute
  obtain ⟨hBluetooth, hWired, hFocus⟩ : _ ∧ _ ∧ _ := by
    simpa [Host.registrations] using hHost
  refine ⟨hTimeout.trans h.timeout, ?_, ?_, ?_, ?_, ?_, ?_, ?_⟩
  · rw [hRoute]
    exact h.managesAudio
  · rw [hRoute]
    exact h.saved
  · rw [hRoute, hFocus]
    exact h.focus
  · rw [hBluetooth, hListening, hSession]
    exact h.bluetooth
  · rw [hWired, hRegistered, hSession]
    exact h.wired
  · rw [hListening]
    exact fun hHears => hPhase (h.listening hHears)
  · rw [hRegistered]
    exact fun hHears => hPhase (h.registered hHears)

theorem Tidy.reroute (h : Tidy config switch) (hReroutes : switch.Reroutes after) :
    Tidy config after := by
  obtain ⟨hHost, hTimeout⟩ := hReroutes.steps.registrations
  exact h.congr (fun hRunning => hReroutes.phase ▸ hRunning) hReroutes.session hTimeout
    hReroutes.steps.headsets.1 (congrArg WiredTracker.registered hReroutes.wired)
    ⟨_, _, hReroutes.route⟩ hHost

theorem session_applyBluetooth {event : BluetoothEvent} {report : HeadsetEvent}
    (hListening : switch.tracker.listening = true)
    (hReport : switch.tracker.report? event = some report) :
    (switch.applyBluetooth event).2.session = switch.session ∧
      (switch.applyBluetooth event).2.host.registrations = switch.host.registrations := by
  rw [applyBluetooth, hListening, hReport]
  have hReroutes := ((reroutes_notifyHeadset _ report).trans (reroutes_yieldFailed _ report)).trans
    (reroutes_reopenDropped ((({ switch with
      tracker := switch.tracker.apply event
      host := switch.host.writeAll (switch.tracker.remarks event) } :
        Switch σ).notifyHeadset report).yieldFailed report) report)
  exact ⟨hReroutes.session,
    hReroutes.steps.registrations.1.trans (Host.registrations_writeAll _ _)⟩

theorem Tidy.applyBluetooth (h : Tidy config switch) {event : BluetoothEvent}
    {report : HeadsetEvent} (hListening : switch.tracker.listening = true)
    (hReport : switch.tracker.report? event = some report) :
    Tidy config (switch.applyBluetooth event).2 := by
  obtain ⟨hPhase, hWired, hTracker, hRoute, _⟩ := applyBluetooth_eq hListening hReport
  obtain ⟨hSession, hHost⟩ := session_applyBluetooth hListening hReport
  refine h.congr (fun hRunning => hPhase ▸ hRunning) hSession ?_ ?_
    (congrArg WiredTracker.registered hWired) ?_ hHost
  · rw [hTracker]
    exact Tracker.timeout_apply _ event
  · rw [hTracker]
    exact Tracker.listening_apply _ event
  · rcases hRoute with hSame | ⟨_, hNone⟩
    · exact ⟨_, _, hSame⟩
    · exact ⟨_, _, hNone⟩

theorem session_applyCallback (switch : Switch σ) (callback : Callback) :
    (switch.applyCallback callback).2.session = switch.session := by
  rcases applyCallback_cases switch callback with
    ⟨wired, lines, hEq⟩ | ⟨event, report, _, _, hListening, hReport, hEq⟩
  · rw [hEq]
  · rw [hEq, (session_applyBluetooth hListening hReport).1]

theorem Tidy.applyCallback (h : Tidy config switch) (callback : Callback) :
    Tidy config (switch.applyCallback callback).2 := by
  have hRegistered := registered_applyCallback switch callback
  rcases applyCallback_cases switch callback with
    ⟨wired, lines, hEq⟩ | ⟨event, report, _, _, hListening, hReport, hEq⟩
  · rw [hEq] at hRegistered ⊢
    exact h.congr id rfl rfl rfl hRegistered ⟨_, _, rfl⟩ (Host.registrations_writeAll _ _)
  · rw [hEq]
    exact h.applyBluetooth hListening hReport

theorem registrations_handle (switch : Switch σ) (callback : Callback) (now : Nat) :
    (switch.handle callback now).host.registrations = switch.host.registrations := by
  refine (reroutes_handle switch callback now).steps.registrations.1.trans ?_
  rcases applyCallback_cases switch callback with
    ⟨wired, lines, hEq⟩ | ⟨event, report, _, _, hListening, hReport, hEq⟩
  · rw [hEq]
    exact Host.registrations_writeAll _ _
  · rw [hEq, (session_applyBluetooth hListening hReport).2]

theorem Tidy.next (h : Tidy config switch) (now : Nat) :
    Tidy config ((switch.next? now).getD switch) := by
  rw [next?]
  split
  · exact h
  · rename_i callback rest _
    have hTaken : Tidy config { switch with host := { switch.host with queue := rest } } :=
      h.congr id rfl rfl rfl rfl ⟨_, _, rfl⟩ rfl
    exact (hTaken.applyCallback callback).reroute (reroutes_handle _ callback now)

theorem Tidy.absorb (h : Tidy config switch) : Tidy config switch.absorb := by
  have hTaken : Tidy config { switch with host := { switch.host with queue := [] } } :=
    h.congr id rfl rfl rfl rfl ⟨_, _, rfl⟩ rfl
  exact absorb_induction (fun _ callback hBefore => hBefore.applyCallback callback) hTaken

omit [Platform σ] in
theorem Tidy.enter (h : Tidy config switch) (hStopped : switch.phase = .stopped)
    (listener : Option Nat) : Tidy config (switch.enter listener) := by
  have hDeaf : switch.tracker.listening = false :=
    Bool.eq_false_iff.mpr fun hListening => h.listening hListening hStopped
  have hMute : switch.wired.registered = false :=
    Bool.eq_false_iff.mpr fun hRegistered => h.registered hRegistered hStopped
  obtain ⟨hPhase, hTracker, hRoute, _, hWired, line, hHost⟩ := enter_eq switch listener
  have hSame : (switch.enter listener).host.registrations = switch.host.registrations := by
    rw [hHost]
    exact Host.registrations_write _ _
  obtain ⟨hBluetooth, hPlugs, hFocus⟩ : _ ∧ _ ∧ _ := by
    simpa [Host.registrations] using hSame
  have hRunning : (switch.enter listener).phase ≠ .stopped := by
    rw [hPhase]
    decide
  refine ⟨?_, ?_, ?_, ?_, ?_, ?_, fun _ => hRunning, fun _ => hRunning⟩
  · rw [hTracker]
    exact h.timeout
  · rw [hRoute]
    exact h.managesAudio
  · rw [hRoute]
    exact h.saved
  · rw [hRoute, hFocus]
    exact h.focus
  · simpa [hBluetooth, hTracker, hDeaf] using h.bluetooth
  · simpa [hPlugs, hWired, hMute] using h.wired

theorem startListening_registrations {host begun : Host σ} {session : Nat}
    (h : host.startListening session = .ok begun) :
    begun.registrations = (some session, host.wiredReceiver, host.focusListener) := by
  have hReported : ∀ (headsets : List Headset) (host : Host σ),
      (headsets.foldl (fun host headset => host.reportBluetooth (.connected headset))
        host).registrations = host.registrations := by
    intro headsets
    induction headsets with
    | nil => exact fun _ => rfl
    | cons headset headsets ih =>
      exact fun host => (ih _).trans (Host.registrations_reportBluetooth host _)
  rw [Host.startListening] at h
  split at h
  · cases h
  · cases h
    exact hReported _ _

/-- Opening the gate registers a receiver, or nothing happens. -/
theorem startPermitted_registrations (tracker : Tracker) (session : Nat) (host : Host σ) :
    let begun := tracker.startPermitted session host
    begun.2.1 = tracker ∧ begun.2.2.registrations = host.registrations ∨
      begun.2.1 = { tracker with listening := true } ∧
        begun.2.2.registrations = (some session, host.wiredReceiver, host.focusListener) := by
  rw [Tracker.startPermitted]
  split
  · rw [Tracker.start]
    split
    · exact .inl ⟨rfl, Host.registrations_write _ _⟩
    split
    · exact .inl ⟨rfl, rfl⟩
    cases hBegun : host.startListening session with
    | error reason => exact .inl ⟨rfl, rfl⟩
    | ok begun =>
      exact .inr ⟨rfl, (Host.registrations_write _ _).trans (startListening_registrations hBegun)⟩
  · exact .inl ⟨rfl, rfl⟩

theorem Tidy.startBluetooth (h : Tidy config switch) (hRunning : switch.phase ≠ .stopped) :
    Tidy config switch.startBluetooth := by
  have hBegun := startPermitted_registrations switch.tracker switch.session switch.host
  have hEnd : ∃ host : Host σ,
      host.registrations =
        (switch.tracker.startPermitted switch.session switch.host).2.2.registrations ∧
      switch.startBluetooth = { switch with
        tracker := (switch.tracker.startPermitted switch.session switch.host).2.1, host } := by
    rw [Switch.startBluetooth]
    generalize switch.tracker.startPermitted switch.session switch.host = begun
    obtain ⟨result, tracker, host⟩ := begun
    cases result with
    | ok => exact ⟨_, rfl, rfl⟩
    | error error => exact ⟨_, Host.registrations_write _ _, rfl⟩
  obtain ⟨host, hHost, hEq⟩ := hEnd
  rw [hEq]
  rcases hBegun with ⟨hTracker, hSame⟩ | ⟨hTracker, hHears⟩
  · refine h.congr id rfl ?_ ?_ rfl ⟨_, _, rfl⟩ (hHost.trans hSame)
    · exact congrArg Tracker.timeout hTracker
    · exact congrArg Tracker.listening hTracker
  · obtain ⟨hBluetooth, hWired, hFocus⟩ : _ ∧ _ ∧ _ := by
      simpa [Host.registrations] using hHost.trans hHears
    refine ⟨?_, h.managesAudio, h.saved, ?_, ?_, hWired.trans h.wired, fun _ => hRunning,
      h.registered⟩
    · exact (congrArg Tracker.timeout hTracker).trans h.timeout
    · exact fun hFree => hFocus.trans (h.focus hFree)
    · simpa [hTracker] using hBluetooth

/-- Beginning to watch the jack registers a receiver, or nothing happens. -/
theorem startWired_registrations (wired : WiredTracker) (session : Nat) (host : Host σ) :
    let begun := wired.start session host
    begun.2.1 = wired ∧ begun.2.2.registrations = host.registrations ∨
      begun.2.1.registered = true ∧
        begun.2.2.registrations = (host.bluetoothReceiver, some session, host.focusListener) := by
  rw [WiredTracker.start]
  split
  · exact .inl ⟨rfl, rfl⟩
  rw [Host.registerWired]
  cases Platform.registerRefusal? host.platform with
  | some reason => exact .inl ⟨rfl, rfl⟩
  | none => exact .inr ⟨rfl, Host.registrations_write _ _⟩

theorem Tidy.startWired (h : Tidy config switch) (hRunning : switch.phase ≠ .stopped) :
    Tidy config switch.startWired := by
  have hBegun := startWired_registrations switch.wired switch.session switch.host
  have hEnd : ∃ host : Host σ,
      host.registrations = (switch.wired.start switch.session switch.host).2.2.registrations ∧
      switch.startWired = { switch with
        wired := (switch.wired.start switch.session switch.host).2.1, host } := by
    rw [Switch.startWired]
    generalize switch.wired.start switch.session switch.host = begun
    obtain ⟨result, wired, host⟩ := begun
    cases result with
    | ok => exact ⟨_, rfl, rfl⟩
    | error error => exact ⟨_, Host.registrations_write _ _, rfl⟩
  obtain ⟨host, hHost, hEq⟩ := hEnd
  rw [hEq]
  rcases hBegun with ⟨hWired, hSame⟩ | ⟨hWired, hHears⟩
  · exact h.congr id rfl rfl rfl (congrArg WiredTracker.registered hWired) ⟨_, _, rfl⟩
      (hHost.trans hSame)
  · obtain ⟨hBluetooth, hPlugs, hFocus⟩ : _ ∧ _ ∧ _ := by
      simpa [Host.registrations] using hHost.trans hHears
    refine ⟨h.timeout, h.managesAudio, h.saved, ?_, hBluetooth.trans h.bluetooth, ?_, h.listening,
      fun _ => hRunning⟩
    · exact fun hFree => hFocus.trans (h.focus hFree)
    · simpa [hWired] using hPlugs

theorem Tidy.start (h : Tidy config switch) (listener : Option Nat) (now : Nat) :
    Tidy config (switch.start listener now) := by
  rw [Switch.start]
  split
  · exact h.reroute (reroutes_write switch _)
  rename_i hPhase
  have hEntered := h.enter (by simpa using hPhase) listener
  have hRunning : (switch.enter listener).phase ≠ .stopped := by
    rw [(enter_eq switch listener).1]
    decide
  have hListening := hEntered.startBluetooth hRunning
  have hRunning' : (switch.enter listener).startBluetooth.phase ≠ .stopped := by
    obtain ⟨_, _, hEq, _⟩ := startBluetooth_eq (switch.enter listener)
    rw [hEq]
    exact hRunning
  exact (hListening.startWired hRunning').absorb.reroute
    (((reroutes_recompute _ []).trans (reroutes_applyRoute _ now)).trans (reroutes_notifyDevices _))

theorem registrations_silence (route : Route) (tracker : Option Tracker) (host : Host σ) :
    (route.silence tracker host).2.registrations = host.registrations := by
  rw [Route.silence]
  split
  · cases tracker with
    | none => rfl
    | some tracker => exact (Tracker.closeLink_steps tracker host).registrations.1
  · rfl
  · rfl

theorem registrations_restore (route : Route) (host : Host σ) :
    (route.restore host).registrations = host.registrations := by
  rw [Route.restore]
  split
  · exact Host.registrations_write host _
  · rfl

theorem registrations_deactivateRoute (switch : Switch σ) :
    switch.deactivateRoute.host.registrations =
      if switch.route.activated && switch.route.focusHeld then
        (switch.host.bluetoothReceiver, switch.host.wiredReceiver, none)
      else switch.host.registrations := by
  have hSilenced := registrations_silence switch.route switch.tracker.listening? switch.host
  rw [deactivateRoute, Route.deactivate]
  cases switch.route.activated with
  | false => rfl
  | true =>
    simp only [Bool.not_true, Bool.false_eq_true, if_false, Bool.true_and, registrations_restore]
    generalize switch.route.silence switch.tracker.listening? switch.host = silenced at *
    cases switch.route.focusHeld with
    | false => exact hSilenced
    | true =>
      obtain ⟨hBluetooth, hWired, _⟩ : _ ∧ _ ∧ _ := by
        simpa [Host.registrations] using hSilenced
      simp [Host.registrations, Host.abandonFocus, Host.issue, hBluetooth, hWired]

theorem Tidy.deactivateRoute {order : PreferredOrder} (h : Tidy config switch)
    (hSteady : Steady order switch) : Tidy config switch.deactivateRoute ∧
      switch.deactivateRoute.route = { Route.idle config.managesAudio with
        focusListener := switch.route.focusListener } ∧
      switch.deactivateRoute.host.focusListener = none := by
  obtain ⟨_, _, hListening, _, _, hActivated, hFocus, hRouted⟩ := hSteady.deactivateRoute
  have hHost := registrations_deactivateRoute switch
  have hTracker := tracker_deactivateRoute hSteady.sound
  have hRoute := route_deactivateRoute switch
  have hTimeout : switch.deactivateRoute.tracker.timeout = switch.tracker.timeout := by
    rw [hTracker]
    split <;> rfl
  have hIdle : switch.deactivateRoute.route = { Route.idle config.managesAudio with
      focusListener := switch.route.focusListener } := by
    have hManages := h.managesAudio
    have hSaved := h.saved
    rw [hRoute] at hActivated hFocus hRouted ⊢
    generalize switch.route = route at *
    obtain ⟨managesAudio, focusListener, saved, activated, focusHeld, routed⟩ := route
    subst hManages
    cases activated with
    | true => rfl
    | false =>
      obtain rfl := hSaved rfl
      obtain rfl : focusHeld = false := hFocus
      obtain rfl : routed = none := hRouted
      rfl
  have hTaken : switch.deactivateRoute.host.bluetoothReceiver = switch.host.bluetoothReceiver ∧
      switch.deactivateRoute.host.wiredReceiver = switch.host.wiredReceiver ∧
      switch.deactivateRoute.host.focusListener = none := by
    cases hHeld : switch.route.focusHeld with
    | true =>
      rw [hSteady.focused hHeld, hHeld] at hHost
      simpa [Host.registrations] using hHost
    | false =>
      rw [hHeld, Bool.and_false] at hHost
      have hFree := h.focus hHeld
      simpa [Host.registrations, hFree] using hHost
  refine ⟨⟨hTimeout.trans h.timeout, ?_, ?_, fun _ => hTaken.2.2, ?_, hTaken.2.1.trans h.wired, ?_,
    h.registered⟩, hIdle, hTaken.2.2⟩
  · rw [hIdle]
    rfl
  · rw [hIdle]
    exact fun _ => rfl
  · rw [hTaken.1, hListening]
    exact h.bluetooth
  · rw [hListening]
    exact h.listening

theorem registrations_stopTracker (tracker : Tracker) (host : Host σ) :
    (tracker.stop host).2.registrations = if tracker.listening then
      (none, host.wiredReceiver, host.focusListener) else host.registrations := by
  have hClosed := (Tracker.closeLink_steps tracker host).registrations.1
  rw [Tracker.stop]
  generalize tracker.closeLink host = closed at *
  obtain ⟨free, silent⟩ := closed
  cases tracker.listening with
  | false => rfl
  | true =>
    obtain ⟨_, hWired, hFocus⟩ : _ ∧ _ ∧ _ := by
      simpa [Host.registrations] using hClosed
    refine (Host.registrations_write _ _).trans ?_
    simp [Host.registrations, Host.stopListening, Host.issue, hWired, hFocus]

theorem Tidy.leave (h : Tidy config switch) : switch.leave.host.registrations =
    (none, none, switch.host.focusListener) := by
  have hTracker := registrations_stopTracker switch.tracker switch.host
  have hBluetooth := h.bluetooth
  have hWired := h.wired
  rw [Switch.leave, WiredTracker.stop]
  generalize switch.tracker.stop switch.host = stopped at *
  obtain ⟨tracker, host⟩ := stopped
  obtain ⟨hNoBluetooth, hSame, hFocus⟩ : host.bluetoothReceiver = none ∧
      host.wiredReceiver = switch.host.wiredReceiver ∧
      host.focusListener = switch.host.focusListener := by
    cases hListening : switch.tracker.listening with
    | true => simpa [hListening, Host.registrations] using hTracker
    | false => simpa [hListening, Host.registrations, hBluetooth] using hTracker
  cases hRegistered : switch.wired.registered with
  | true => simp [Host.registrations, Host.unregisterWired, Host.issue, hNoBluetooth, hFocus]
  | false =>
    rw [hRegistered] at hWired
    simp [Host.registrations, hNoBluetooth, hFocus, hSame, hWired]

theorem Tidy.stop {order : PreferredOrder} (h : Tidy config switch)
    (hSteady : Steady order switch) : Tidy config switch.stop := by
  rw [Switch.stop]
  split
  · exact h
  have hWritten := h.reroute (reroutes_write switch (.info "Stopping audio switch" []))
  have hWrittenSteady : Steady order (switch.write (.info "Stopping audio switch" [])) :=
    hSteady.congr rfl rfl rfl rfl
  obtain ⟨hTidy, hRoute, hFocus⟩ := hWritten.deactivateRoute hWrittenSteady
  obtain ⟨hSound, _⟩ := hWrittenSteady.deactivateRoute
  generalize (switch.write (.info "Stopping audio switch" [])).deactivateRoute = silenced at *
  obtain ⟨hBluetooth, hWired, hListener⟩ : _ ∧ _ ∧ _ := by
    simpa [Host.registrations] using hTidy.leave
  have hTracker : silenced.leave.tracker = .idle silenced.tracker.timeout :=
    tracker_stop hSound silenced.host
  refine ⟨?_, hTidy.managesAudio, hTidy.saved, fun _ => hListener.trans hFocus, ?_, hWired, ?_, ?_⟩
  · rw [hTracker]
    exact hTidy.timeout
  · rw [hBluetooth, hTracker]
    rfl
  · rw [hTracker]
    rintro ⟨⟩
  · rintro ⟨⟩

theorem Tidy.disengage {order : PreferredOrder} (h : Tidy config switch)
    (hSteady : Steady order switch) : Tidy config switch.disengage := by
  rw [Switch.disengage]
  split
  · exact h
  · obtain ⟨hTidy, _⟩ := h.deactivateRoute hSteady
    exact hTidy.congr (fun _ => by simp) rfl rfl rfl rfl ⟨_, _, rfl⟩ rfl

theorem registrations_prepare (route : Route) (host : Host σ) :
    (route.prepare host).2.registrations = host.registrations ∧
      (route.prepare host).1.managesAudio = route.managesAudio := by
  rw [Route.prepare]
  split
  · exact ⟨rfl, rfl⟩
  split
  · exact ⟨rfl, rfl⟩
  · exact ⟨Host.registrations_write host _, rfl⟩

theorem registrations_activate (route : Route) (host : Host σ) :
    let taken := route.activate host
    taken.2.1.managesAudio = route.managesAudio ∧
      taken.2.2.bluetoothReceiver = host.bluetoothReceiver ∧
      taken.2.2.wiredReceiver = host.wiredReceiver ∧
      (taken.2.1.focusHeld = false → taken.2.2.focusListener = host.focusListener) := by
  obtain ⟨hReady, hManages⟩ := registrations_prepare route host
  rw [Route.activate]
  generalize route.prepare host = ready at *
  obtain ⟨prepared, ready⟩ := ready
  obtain ⟨hBluetooth, hWired, hFocus⟩ : _ ∧ _ ∧ _ := by
    simpa [Host.registrations] using hReady
  simp only at hManages ⊢
  rw [Route.takeFocus, Host.requestFocus]
  split
  · exact ⟨hManages, hBluetooth, hWired, fun _ => hFocus⟩
  split
  · rename_i host hAsked
    split at hAsked
    · cases hAsked
      exact ⟨hManages, by simpa [Host.issue] using hBluetooth, by simpa [Host.issue] using hWired,
        by rintro ⟨⟩⟩
    · cases hAsked
  · rename_i host hAsked
    split at hAsked
    · cases hAsked
    · cases hAsked
      have hWritten := Host.registrations_write (ready.issue .requestFocus)
        (.warn "Audio focus request was declined" [])
      simp only [Host.registrations, Prod.mk.injEq] at hWritten
      exact ⟨hManages, hWritten.1.trans hBluetooth, hWritten.2.1.trans hWired,
        fun _ => hWritten.2.2.trans hFocus⟩

theorem Tidy.engage (h : Tidy config switch) (now : Nat) : Tidy config (switch.engage now).2 := by
  rw [Switch.engage]
  split
  · exact h
  have hTaken := activate_eq switch.route switch.host
  have hSame := registrations_activate switch.route switch.host
  generalize switch.route.activate switch.host = taken at *
  obtain ⟨result, route, host⟩ := taken
  obtain ⟨hActivated, _, hFocus⟩ := hTaken
  obtain ⟨hManages, hBluetooth, hWired, hListener⟩ := hSame
  simp only at hActivated hFocus hManages hBluetooth hWired hListener ⊢
  have hEngaged : Tidy config { switch with phase := .activated, route, host } := by
    refine ⟨h.timeout, hManages.trans h.managesAudio, ?_, ?_, hBluetooth.trans h.bluetooth,
      hWired.trans h.wired, by simp, by simp⟩
    · exact fun hIdle => absurd (hActivated.symm.trans hIdle) (by decide)
    · intro hFree
      rcases hFocus with ⟨_, hHeld⟩ | ⟨_, hBefore, _⟩
      · exact absurd (hHeld.symm.trans hFree) (by decide)
      · exact (hListener hFree).trans (h.focus hBefore)
  cases result with
  | error error => exact hEngaged.reroute (reroutes_write _ _)
  | ok =>
    exact hEngaged.reroute ((reroutes_applyRoute _ now).trans (reroutes_announce _ _))

theorem Tidy.beat {order : PreferredOrder} (h : Tidy config switch)
    (hConsistent : Consistent order switch) (beat : Beat) : Tidy config (switch.beat beat) := by
  cases beat with
  | callback now => exact h.next now
  | poll now => exact h.reroute (reroutes_poll switch now)
  | act operation now =>
    cases operation with
    | start listener => exact h.start listener now
    | stop => exact h.stop hConsistent.toSteady
    | activate => exact h.engage now
    | deactivate => exact h.disengage hConsistent.toSteady
    | select device =>
      rw [Switch.beat, act, choose]
      split
      · exact h.reroute (reroutes_write switch _)
      split
      · exact h.reroute (reroutes_write switch _)
      · have hForgiven : (switch.tracker.forgive device).timeout = switch.tracker.timeout ∧
            (switch.tracker.forgive device).listening = switch.tracker.listening := by
          rcases Tracker.forgive_eq switch.tracker device with hSame | ⟨address, hClear⟩
          · rw [hSame]
            exact ⟨rfl, rfl⟩
          · rw [hClear]
            exact ⟨rfl, rfl⟩
        have hPinned : Tidy config (switch.pinTo device) :=
          h.congr id rfl hForgiven.1 hForgiven.2 rfl ⟨_, _, rfl⟩ rfl
        exact hPinned.reroute (reroutes_refreshSince _ _ now)
    | clearSelection =>
      rw [Switch.beat, act, unchoose]
      split
      · exact h
      · have hFreed : Tidy config { switch with selector := switch.selector.clearPin } :=
          h.congr id rfl rfl rfl rfl ⟨_, _, rfl⟩ rfl
        exact hFreed.reroute (reroutes_refreshSince _ _ now)
    | hostResumed =>
      rw [Switch.beat, act, resume]
      split
      · rename_i hResumable
        have hRunning : switch.phase ≠ .stopped := by
          intro hStopped
          simp [resumable, hStopped] at hResumable
        exact (h.reroute (reroutes_write switch _)).startBluetooth hRunning
      · exact h
    | pump | poll | next => exact h
    | _ => exact h.congr id rfl rfl rfl rfl ⟨_, _, rfl⟩ rfl

theorem Tidy.move {order : PreferredOrder} (h : Tidy config switch)
    (hConsistent : Consistent order switch) (move : Move σ) : Tidy config (switch.move move) := by
  cases move with
  | operation operation now =>
    let kept (switch : Switch σ) : Prop := Consistent order switch ∧ Tidy config switch
    have hBeat : ∀ (switch : Switch σ) beat, kept switch → kept (switch.beat beat) :=
      fun _ beat hBefore => ⟨hBefore.1.beat beat, hBefore.2.beat hBefore.1 beat⟩
    exact (perform_induction hBeat ⟨hConsistent, h⟩ operation now).2
  | focus change =>
    refine h.congr id rfl rfl rfl rfl ⟨_, _, rfl⟩ ?_
    rw [Switch.move, Host.changeFocus]
    split <;> rfl
  | _ => exact h.congr id rfl rfl rfl rfl ⟨_, _, rfl⟩ rfl

/-- In every run the platform knows of the switch just what the switch is doing. -/
theorem tidy_run (config : SwitchConfig) (platform : σ) (moves : List (Move σ)) :
    Tidy config ((create config platform).run moves) := by
  have hConsistent := consistent_create config platform
  have hBegin := tidy_create config platform
  generalize create config platform = switch at hConsistent hBegin
  induction moves generalizing switch with
  | nil => exact hBegin
  | cons move moves ih => exact ih _ (hConsistent.move move) (hBegin.move hConsistent move)

end Switch

end CallAudio
