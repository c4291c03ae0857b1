import CallAudio.Proofs.Restart
import CallAudio.Proofs.Sessions
import Mathlib.Data.List.Chain

/-! # What the device listener is told

A step of the switch tells the device listener once if the visible devices changed, and otherwise
nothing. So the listener's view is exact: it is never told the same twice in a row, and what it was
told last is what there is.
-/

namespace CallAudio

variable {σ : Type}

namespace Host

@[simp] theorem notices_write (host : Host σ) (line : LogLine) :
    (host.write line).notices = host.notices := by
  unfold write
  split <;> rfl

@[simp] theorem notices_writeAll (host : Host σ) (lines : List LogLine) :
    (host.writeAll lines).notices = host.notices := by
  induction lines generalizing host with
  | nil => rfl
  | cons line lines ih => exact (ih (host.write line)).trans (notices_write host line)

@[simp] theorem notices_reportBluetooth (host : Host σ) (event : BluetoothEvent) :
    (host.reportBluetooth event).notices = host.notices := by
  obtain ⟨_, hEq⟩ := host.reportBluetooth_eq event
  rw [hEq]

variable [Platform σ]

@[simp] theorem notices_issue (host : Host σ) (command : Command) :
    (host.issue command).notices = host.notices := rfl

@[simp] theorem notices_enableLink (host : Host σ) (address : String) :
    (host.enableLink address).2.notices = host.notices := by
  rw [enableLink]
  cases Platform.linkAnswer host.platform address <;> simp

theorem notices_startListening {host begun : Host σ} {session : Nat}
    (h : host.startListening session = .ok begun) : begun.notices = host.notices := by
  have hGreeted : ∀ (headsets : List Headset) (host : Host σ),
      (headsets.foldl (fun host headset => host.reportBluetooth (.connected headset))
        host).notices = host.notices := by
    intro headsets
    induction headsets with
    | nil => exact fun _ => rfl
    | cons headset headsets ih => exact fun host => (ih _).trans (notices_reportBluetooth host _)
  rw [startListening] at h
  split at h
  · cases h
  · cases h
    exact hGreeted _ _

end Host

variable [Platform σ]

namespace Tracker

variable (tracker : Tracker) (host : Host σ)

@[simp] theorem notices_closeLink : (tracker.closeLink host).2.notices = host.notices := by
  rw [closeLink]
  split <;> simp

@[simp] theorem notices_requestLink (address : String) (now : Nat) :
    (tracker.requestLink address now host).2.2.notices = host.notices := by
  have hAsked : ((host.write (.debug "Attempting to enable Bluetooth SCO"
      [("address", address)])).enableLink address).2.notices = host.notices := by simp
  rw [requestLink]
  generalize (host.write _).enableLink address = asked at *
  obtain ⟨result, asked⟩ := asked
  cases result <;> simpa using hAsked

@[simp] theorem notices_openLink (address : String) (now : Nat) :
    (tracker.openLink address now host).2.2.notices = host.notices := by
  rw [openLink]
  split
  · simp
  split <;> simp

@[simp] theorem notices_checkTimeout (now : Nat) :
    (tracker.checkTimeout now host).2.2.notices = host.notices := by
  rw [checkTimeout]
  split
  · split <;> simp
  · rfl

@[simp] theorem notices_startPermitted (session : Nat) :
    (tracker.startPermitted session host).2.2.notices = host.notices := by
  rw [startPermitted]
  split
  · rw [start]
    split
    · simp
    split
    · rfl
    cases hStarted : host.startListening session with
    | error reason => rfl
    | ok begun => simpa using Host.notices_startListening hStarted
  · rfl

end Tracker

@[simp] theorem WiredTracker.notices_start (wired : WiredTracker) (session : Nat) (host : Host σ) :
    (wired.start session host).2.2.notices = host.notices := by
  rw [start, Host.registerWired]
  split
  · rfl
  cases Platform.registerRefusal? host.platform <;> simp

namespace Route

variable (route : Route) (tracker : Option Tracker) (host : Host σ)

@[simp] theorem notices_closeAny : (closeAny tracker host).2.notices = host.notices := by
  cases tracker <;> simp [closeAny]

@[simp] theorem notices_disable (old : Device) (next : Option Device) :
    (disable old next tracker host).2.notices = host.notices := by
  cases old with
  | bluetoothHeadset headset =>
    rw [disable]
    split <;> simp
  | _ => simp [disable]

@[simp] theorem notices_vacate (next : Option Device) :
    (route.vacate next tracker host).2.notices = host.notices := by
  cases hRouted : route.routed <;> simp [vacate, hRouted]

@[simp] theorem notices_enable (device : Device) (now : Nat) :
    (enable device tracker now host).2.2.notices = host.notices := by
  cases device with
  | bluetoothHeadset headset => cases tracker <;> simp [enable]
  | _ => simp [enable]

@[simp] theorem notices_routeTo (device : Option Device) (now : Nat) :
    (route.routeTo device tracker now host).host.notices = host.notices := by
  rw [routeTo]
  split
  · rfl
  cases device with
  | none => simp
  | some device =>
    simp only
    split <;> simp

@[simp] theorem notices_activate : (route.activate host).2.2.notices = host.notices := by
  have hPrepared : (route.prepare host).2.notices = host.notices := by
    rw [prepare]
    split
    · rfl
    split <;> simp
  rw [activate]
  generalize route.prepare host = prepared at *
  obtain ⟨prepared, ready⟩ := prepared
  simp only at hPrepared ⊢
  rw [takeFocus, Host.requestFocus]
  cases prepared.focusHeld with
  | true => exact hPrepared
  | false => cases Platform.grantsFocus ready.platform <;> simpa using hPrepared

@[simp] theorem notices_deactivate : (route.deactivate tracker host).2.2.notices = host.notices := by
  have hSilenced : (route.silence tracker host).2.notices = host.notices := by
    rw [silence]
    split <;> simp
  have hRestored : ∀ host : Host σ, (route.restore host).notices = host.notices := by
    intro host
    rw [restore]
    split <;> simp
  rw [deactivate]
  generalize route.silence tracker host = silenced at *
  cases route.activated with
  | false => rfl
  | true => cases route.focusHeld <;> exact (hRestored _).trans hSilenced

end Route

namespace Switch

variable {before middle after switch : Switch σ} {now : Nat}

def deviceNotices (switch : Switch σ) : List Notice := switch.host.notices.filter Notice.isDevices

structure Untold (before after : Switch σ) : Prop where
  running : before.phase ≠ .stopped → after.phase ≠ .stopped
  device : after.listeners.device = before.listeners.device
  notices : after.deviceNotices = before.deviceNotices

/-- What a listener is to hear of the way from `before` to `after`: the new view, once, if the view
changed, and nothing otherwise. -/
def tidings (before after : Switch σ) (listener : Nat) : List Notice :=
  if after.view = before.view then [] else [.devices listener after.view.1 after.view.2]

structure Tells (before after : Switch σ) : Prop where
  running : before.phase ≠ .stopped → after.phase ≠ .stopped
  device : after.listeners.device = before.listeners.device
  notices : after.deviceNotices = before.deviceNotices ++
    before.listeners.device.toList.flatMap (before.tidings after)

omit [Platform σ] in
theorem Untold.refl (switch : Switch σ) : switch.Untold switch := ⟨id, rfl, rfl⟩

omit [Platform σ] in
theorem Untold.trans (h : before.Untold middle) (h' : middle.Untold after) : before.Untold after :=
  ⟨h'.running ∘ h.running, h'.device.trans h.device, h'.notices.trans h.notices⟩

omit [Platform σ] in
theorem Tells.heard (h : before.Tells after) {listener : Nat}
    (hListener : before.listeners.device = some listener) :
    after.deviceNotices = before.deviceNotices ++ before.tidings after listener := by
  rw [h.notices, hListener]
  exact congrArg (before.deviceNotices ++ ·) (List.append_nil _)

omit [Platform σ] in
theorem Tells.quiet (h : before.Tells after) (hView : after.view = before.view) :
    after.deviceNotices = before.deviceNotices := by
  rw [h.notices]
  simp [tidings, hView]

omit [Platform σ] in
theorem untold_rehost (hPhase : after.phase = before.phase)
    (hDevice : after.listeners.device = before.listeners.device)
    (hNotices : after.host.notices = before.host.notices) : before.Untold after := by
  refine ⟨fun hRunning => ?_, hDevice, ?_⟩
  · rwa [hPhase]
  · rw [deviceNotices, hNotices, deviceNotices]

omit [Platform σ] in
theorem Untold.tells (h : before.Untold after) (hView : after.view = before.view) :
    before.Tells after :=
  ⟨h.running, h.device, by simp [tidings, hView, h.notices]⟩

omit [Platform σ] in
/-- What happened before `middle` is of no account if nothing of it shows. -/
theorem Untold.then (h : before.Untold middle) (hView : middle.view = before.view)
    (hTells : middle.Tells after) : before.Tells after := by
  refine ⟨hTells.running ∘ h.running, hTells.device.trans h.device, ?_⟩
  have hTidings : middle.tidings after = before.tidings after := by
    funext listener
    rw [tidings, tidings, hView]
  rw [hTells.notices, h.notices, h.device, hTidings]

omit [Platform σ] in
theorem deviceNotices_notifyDevices (switch : Switch σ) :
    switch.notifyDevices.deviceNotices = switch.deviceNotices ++
      switch.listeners.device.toList.map (.devices · switch.view.1 switch.view.2) := by
  rw [notifyDevices, Listeners.devicesChanged]
  cases switch.listeners.device with
  | none => simp [deviceNotices]
  | some listener => simp [deviceNotices, Host.notify, Notice.isDevices, view]

omit [Platform σ] in
theorem Untold.announce (h : before.Untold after) : before.Tells (after.announce before.view) := by
  rw [Switch.announce]
  split
  · rename_i hSame
    exact h.tells hSame
  · rename_i hChanged
    refine ⟨h.running, h.device, ?_⟩
    have hTidings : before.tidings after.notifyDevices =
        fun listener => [.devices listener after.view.1 after.view.2] := by
      funext listener
      exact if_neg hChanged
    rw [deviceNotices_notifyDevices, h.notices, h.device, hTidings, List.map_eq_flatMap]

omit [Platform σ] in
theorem untold_write (switch : Switch σ) (line : LogLine) : switch.Untold (switch.write line) :=
  untold_rehost rfl rfl (Host.notices_write _ _)

omit [Platform σ] in
theorem untold_notifyHeadset (switch : Switch σ) (event : HeadsetEvent) :
    switch.Untold (switch.notifyHeadset event) := by
  refine ⟨id, rfl, ?_⟩
  have hShown := Host.shown_headsetEvent switch.host switch.listeners event
  exact congrArg (fun shown => shown.2.2.2.2) hShown

theorem untold_recompute (switch : Switch σ) (rejected : List Device) :
    switch.Untold (switch.recompute rejected) :=
  untold_rehost rfl rfl (Host.notices_writeAll _ _)

theorem untold_fallBack (switch : Switch σ) (device : Device) (rejected : List Device) :
    switch.Untold (switch.fallBack device rejected) := by
  have hUnpinned : switch.Untold (switch.unpin device) := untold_rehost rfl rfl rfl
  exact (hUnpinned.trans (untold_notifyHeadset _ _)).trans (untold_recompute _ rejected)

theorem untold_routeOnce (switch : Switch σ) (now : Nat) :
    switch.Untold (switch.routeOnce now).2 :=
  untold_rehost rfl rfl (Route.notices_routeTo _ _ _ _ _)

/-- The selections that routing tries in between are not told. -/
theorem untold_routeWithin (tries : Nat) (rejected : List Device) (now : Nat) (switch : Switch σ) :
    switch.Untold (switch.routeWithin tries rejected now) := by
  induction tries generalizing switch rejected with
  | zero => exact .refl switch
  | succ tries ih =>
    have hOnce := untold_routeOnce switch now
    cases hResult : (switch.routeOnce now).1 with
    | ok =>
      rw [routeWithin_ok hResult]
      exact hOnce
    | error error =>
      cases hSelected : switch.selector.selected with
      | none => simpa [routeWithin, hSelected] using hOnce
      | some device =>
        rw [routeWithin_error hResult hSelected]
        have hWritten := hOnce.trans (untold_write _ (unroutedLine device error))
        split
        · exact hWritten
        · exact (hWritten.trans (untold_fallBack _ _ _)).trans (ih _ _)

theorem untold_applyRoute (switch : Switch σ) (now : Nat) :
    switch.Untold (switch.applyRoute now) := untold_routeWithin _ _ _ _

theorem Untold.refreshSince (h : before.Untold middle) (now : Nat) :
    before.Tells (middle.refreshSince before.view now) :=
  ((h.trans (untold_recompute middle [])).trans (untold_applyRoute _ now)).announce

theorem Untold.refresh (h : before.Untold middle) (hView : middle.view = before.view) (now : Nat) :
    before.Tells (middle.refresh now) := by
  rw [Switch.refresh, hView]
  exact h.refreshSince now

omit [Platform σ] in
theorem view_unpin (switch : Switch σ) (device : Device) :
    (switch.unpin device).view = switch.view := by
  rw [unpin, Selector.unpin]
  split <;> rfl

omit [Platform σ] in
theorem untold_yieldFailed (switch : Switch σ) (event : HeadsetEvent) :
    switch.Untold (switch.yieldFailed event) ∧ (switch.yieldFailed event).view = switch.view := by
  rw [yieldFailed]
  split
  · exact ⟨untold_rehost rfl rfl (Host.notices_write _ _), view_unpin _ _⟩
  · exact ⟨.refl switch, rfl⟩

omit [Platform σ] in
theorem untold_reopenDropped (switch : Switch σ) (event : HeadsetEvent) :
    switch.Untold (switch.reopenDropped event) ∧
      (switch.reopenDropped event).view = switch.view := by
  rw [reopenDropped]
  split
  · exact ⟨untold_rehost rfl rfl (Host.notices_write _ _), rfl⟩
  · exact ⟨.refl switch, rfl⟩

omit [Platform σ] in
/-- A callback that was only fed to its tracker shows nothing new yet. -/
theorem untold_applyCallback (switch : Switch σ) (callback : Callback) :
    switch.Untold (switch.applyCallback callback).2 ∧
      (switch.applyCallback callback).2.view = switch.view := by
  rcases applyCallback_cases switch callback with
    ⟨wired, lines, hEq⟩ | ⟨event, report, _, _, hListening, hReport, hEq⟩
  · rw [hEq]
    exact ⟨untold_rehost rfl rfl (Host.notices_writeAll _ _), rfl⟩
  · rw [hEq, applyBluetooth, hListening, hReport]
    generalize hTracked : ({ switch with
      tracker := switch.tracker.apply event
      host := switch.host.writeAll (switch.tracker.remarks event) } : Switch σ) = tracked
    have hHeard : switch.Untold tracked ∧ tracked.view = switch.view := by
      subst hTracked
      exact ⟨untold_rehost rfl rfl (Host.notices_writeAll _ _), rfl⟩
    obtain ⟨hYielded, hSame⟩ := untold_yieldFailed (tracked.notifyHeadset report) report
    obtain ⟨hReopened, hStill⟩ :=
      untold_reopenDropped ((tracked.notifyHeadset report).yieldFailed report) report
    exact ⟨((hHeard.1.trans (untold_notifyHeadset _ report)).trans hYielded).trans hReopened,
      (hStill.trans hSame).trans hHeard.2⟩

/-! ## What each part of an operation tells -/

theorem tells_handle (switch : Switch σ) (callback : Callback) (now : Nat) :
    switch.Tells (switch.handle callback now) := by
  obtain ⟨hApplied, hView⟩ := untold_applyCallback switch callback
  cases hChanged : (switch.applyCallback callback).1 with
  | false =>
    rw [handle_unchanged hChanged]
    exact hApplied.tells hView
  | true =>
    rw [handle_changed hChanged]
    exact hApplied.refresh hView now

theorem tells_next (switch : Switch σ) (now : Nat) :
    switch.Tells ((switch.next? now).getD switch) := by
  rw [next?]
  split
  · exact (Untold.refl switch).tells rfl
  · rename_i callback rest _
    have hTaken : switch.Untold (switch.requeue rest) := untold_rehost rfl rfl rfl
    exact hTaken.then rfl (tells_handle _ callback now)

theorem tells_poll (switch : Switch σ) (now : Nat) : switch.Tells (switch.poll now) := by
  have hNotices := switch.tracker.notices_checkTimeout switch.host now
  rw [poll]
  split
  · exact (Untold.refl switch).tells rfl
  generalize switch.tracker.checkTimeout now switch.host = checked at *
  obtain ⟨event, tracker, host⟩ := checked
  have hChecked : switch.Untold { switch with tracker, host } := untold_rehost rfl rfl hNotices
  cases event with
  | none => exact hChecked.tells rfl
  | some event =>
    obtain ⟨hYielded, hView⟩ :=
      untold_yieldFailed (({ switch with tracker, host } : Switch σ).notifyHeadset event) event
    exact ((hChecked.trans (untold_notifyHeadset _ event)).trans hYielded).refresh hView now

theorem tells_engage (switch : Switch σ) (now : Nat) : switch.Tells (switch.engage now).2 := by
  have hNotices := switch.route.notices_activate switch.host
  rw [engage]
  split
  · exact (Untold.refl switch).tells rfl
  generalize switch.route.activate switch.host = taken at *
  obtain ⟨result, route, host⟩ := taken
  have hEngaged : switch.Untold { switch with phase := .activated, route, host } :=
    ⟨fun _ => Phase.noConfusion, rfl, congrArg (List.filter Notice.isDevices) hNotices⟩
  cases result with
  | error error => exact (hEngaged.trans (untold_write _ _)).tells rfl
  | ok => exact (hEngaged.trans (untold_applyRoute _ now)).announce

theorem tells_disengage (switch : Switch σ) : switch.Tells switch.disengage := by
  have hNotices := switch.route.notices_deactivate switch.tracker.listening? switch.host
  rw [disengage]
  split
  · exact (Untold.refl switch).tells rfl
  · have hReleased : switch.Untold { switch.deactivateRoute with phase := .started } :=
      ⟨fun _ => Phase.noConfusion, rfl, congrArg (List.filter Notice.isDevices) hNotices⟩
    exact hReleased.tells rfl

theorem tells_choose (switch : Switch σ) (device : Device) (now : Nat) :
    switch.Tells (switch.choose device now) := by
  rw [choose]
  split
  · exact (untold_write switch _).tells rfl
  split
  · exact (untold_write switch _).tells rfl
  · have hPinned : switch.Untold (switch.pinTo device) := untold_rehost rfl rfl rfl
    exact hPinned.refreshSince now

theorem tells_unchoose (switch : Switch σ) (now : Nat) : switch.Tells (switch.unchoose now) := by
  rw [unchoose]
  split
  · exact (Untold.refl switch).tells rfl
  · have hFreed : switch.Untold { switch with selector := switch.selector.clearPin } :=
      untold_rehost rfl rfl rfl
    exact hFreed.refresh rfl now

theorem untold_startBluetooth (switch : Switch σ) : switch.Untold switch.startBluetooth := by
  have hNotices := switch.tracker.notices_startPermitted switch.host switch.session
  rw [startBluetooth]
  generalize switch.tracker.startPermitted switch.session switch.host = begun at *
  obtain ⟨result, tracker, host⟩ := begun
  have hBegun : switch.Untold { switch with tracker, host } := untold_rehost rfl rfl hNotices
  cases result with
  | ok => exact hBegun
  | error error => exact hBegun.trans (untold_write _ _)

theorem untold_startWired (switch : Switch σ) : switch.Untold switch.startWired := by
  have hNotices := switch.wired.notices_start switch.session switch.host
  rw [startWired]
  generalize switch.wired.start switch.session switch.host = begun at *
  obtain ⟨result, wired, host⟩ := begun
  have hBegun : switch.Untold { switch with wired, host } := untold_rehost rfl rfl hNotices
  cases result with
  | ok => exact hBegun
  | error error => exact hBegun.trans (untold_write _ _)

theorem tells_resume (switch : Switch σ) : switch.Tells switch.resume := by
  rw [resume]
  split
  · obtain ⟨_, _, hEq, _⟩ := startBluetooth_eq
      (switch.write (.info "Bluetooth permission granted, starting headset tracking" []))
    refine ((untold_write switch _).trans (untold_startBluetooth _)).tells ?_
    rw [hEq]
    rfl
  · exact (Untold.refl switch).tells rfl

omit [Platform σ] in
theorem untold_absorb (switch : Switch σ) : switch.Untold switch.absorb := by
  have hCallback : ∀ (after : Switch σ) callback, switch.Untold after →
      switch.Untold (after.applyCallback callback).2 :=
    fun after callback hBefore => hBefore.trans (untold_applyCallback after callback).1
  exact absorb_induction hCallback (untold_rehost rfl rfl rfl)

/-- A session begins with one notice, to the listener that came with it. -/
theorem start_tells (hStopped : switch.phase = .stopped) (listener now : Nat) :
    let begun := switch.start (some listener) now
    begun.phase ≠ .stopped ∧ begun.listeners.device = some listener ∧
      begun.deviceNotices =
        switch.deviceNotices ++ [.devices listener begun.view.1 begun.view.2] := by
  have hEntered : (switch.enter (some listener)).phase ≠ .stopped ∧
      (switch.enter (some listener)).listeners.device = some listener ∧
      (switch.enter (some listener)).deviceNotices = switch.deviceNotices :=
    ⟨Phase.noConfusion, rfl, congrArg (List.filter Notice.isDevices) (Host.notices_write _ _)⟩
  rw [start, if_neg (not_not.mpr hStopped)]
  simp only
  generalize switch.enter (some listener) = entered at *
  have hSelected := ((((untold_startBluetooth entered).trans (untold_startWired _)).trans
    (untold_absorb _)).trans (untold_recompute _ [])).trans (untold_applyRoute _ now)
  generalize ((entered.startBluetooth.startWired.absorb.recompute []).applyRoute now) = selected at *
  obtain ⟨hRunning, hListener, hNotices⟩ := hEntered
  have hDevice : selected.listeners.device = some listener := by rw [hSelected.device, hListener]
  refine ⟨hSelected.running hRunning, hDevice, ?_⟩
  rw [deviceNotices_notifyDevices, hSelected.notices, hNotices, hDevice]
  rfl

end Switch

def Move.keepsListener : Move σ → Bool
  | .operation .stop _ => false
  | .operation (.setDeviceListener _) _ => false
  | _ => true

namespace Switch

variable {before after switch : Switch σ}

/-- Since it was told `first`, the listener was told `views`, each a change, and the last of all is
what there is to see. -/
structure Follows (listener : Nat) (begun : List Notice) (first : List Device × Option Device)
    (views : List (List Device × Option Device)) (switch : Switch σ) : Prop where
  running : switch.phase ≠ .stopped
  device : switch.listeners.device = some listener
  notices : switch.deviceNotices =
    begun ++ views.map fun view => .devices listener view.1 view.2
  changes : (first :: views).IsChain (· ≠ ·)
  last : (first :: views).getLast? = some switch.view

variable {listener : Nat} {begun : List Notice} {first : List Device × Option Device}
  {views : List (List Device × Option Device)}

omit [Platform σ] in
/-- One notice more for a new view, and none for an old one. -/
theorem Follows.tells (h : Follows listener begun first views before) (hTells : before.Tells after) :
    ∃ views, Follows listener begun first views after := by
  have hNotices := hTells.heard h.device
  have hListener : after.listeners.device = some listener := by rw [hTells.device, h.device]
  rw [h.notices, tidings] at hNotices
  by_cases hView : after.view = before.view
  · rw [if_pos hView, List.append_nil] at hNotices
    exact ⟨views, hTells.running h.running, hListener, hNotices, h.changes, hView ▸ h.last⟩
  · rw [if_neg hView, List.append_assoc] at hNotices
    refine ⟨views ++ [after.view], hTells.running h.running, hListener, ?_, ?_, ?_⟩
    · simpa using hNotices
    · rw [← List.cons_append, List.isChain_append]
      refine ⟨h.changes, .singleton _, ?_⟩
      simp only [h.last, Option.mem_some_iff, List.head?_cons]
      rintro _ rfl _ rfl
      exact fun hSame => hView hSame.symm
    · rw [← List.cons_append, List.getLast?_concat]

theorem Follows.perform (h : ∃ views, Follows listener begun first views switch)
    {operation : Operation} {now : Nat}
    (hKeeps : (Move.operation operation now : Move σ).keepsListener = true) :
    ∃ views, Follows listener begun first views (switch.perform operation now) := by
  let kept (after : Switch σ) : Prop := ∃ views, Follows listener begun first views after
  have hCallback : ∀ after, kept after → kept (after.beat (.callback now)) := by
    rintro after ⟨views, hFollows⟩
    exact hFollows.tells (tells_next after now)
  have hPoll : ∀ after, kept after → kept (after.poll now) := by
    rintro after ⟨views, hFollows⟩
    exact hFollows.tells (tells_poll after now)
  have hAct : ∀ after, kept after → kept (after.act operation now) := by
    rintro after ⟨views, hFollows⟩
    refine hFollows.tells ?_
    cases operation with
    | start other =>
      rw [act, start, if_pos hFollows.running]
      exact (untold_write after _).tells rfl
    | stop | setDeviceListener => cases hKeeps
    | activate => exact tells_engage after now
    | deactivate => exact tells_disengage after
    | select device => exact tells_choose after device now
    | clearSelection => exact tells_unchoose after now
    | hostResumed => exact tells_resume after
    | _ =>
      refine Untold.tells ?_ rfl
      exact untold_rehost rfl rfl rfl
  exact perform_induction_act hCallback hPoll hAct h

theorem Follows.move (h : ∃ views, Follows listener begun first views switch) {move : Move σ}
    (hKeeps : move.keepsListener = true) :
    ∃ views, Follows listener begun first views (switch.move move) := by
  cases move with
  | operation operation now => exact Follows.perform h hKeeps
  | callback callback =>
    obtain ⟨views, hFollows⟩ := h
    have hReceived : switch.Untold (switch.receive callback) := untold_rehost rfl rfl rfl
    exact hFollows.tells (hReceived.tells rfl)
  | platform change =>
    obtain ⟨views, hFollows⟩ := h
    have hChanged : switch.Untold (switch.move (.platform change)) := untold_rehost rfl rfl rfl
    exact hFollows.tells (hChanged.tells rfl)
  | focus change =>
    obtain ⟨views, hFollows⟩ := h
    have hTold : switch.Untold (switch.move (.focus change)) := by
      refine ⟨id, rfl, ?_⟩
      simp only [Switch.move, deviceNotices, Host.changeFocus]
      split <;> simp [Host.notify, Notice.isDevices]
    exact hFollows.tells (hTold.tells rfl)

theorem Follows.run (h : ∃ views, Follows listener begun first views switch) {moves : List (Move σ)}
    (hKeeps : ∀ move ∈ moves, move.keepsListener = true) :
    ∃ views, Follows listener begun first views (switch.run moves) := by
  induction moves generalizing switch with
  | nil => exact h
  | cons move moves ih =>
    obtain ⟨hFirst, hRest⟩ := List.forall_mem_cons.mp hKeeps
    exact ih (Follows.move h hFirst) hRest

/-- The view of a listener that came with a session is exact as long as it is not replaced. It is
told once when the session begins; a callback, a look at the deadline, and what an activation or a
choice does on its own tell it the new view, once, if the view changed, and nothing otherwise; no two
notices in a row are the same, and the last one is what there is. -/
theorem device_listener_exact (config : SwitchConfig) (platform : σ)
    (earlier session : List (Move σ)) (listener now : Nat)
    (hStopped : ((create config platform).run earlier).phase = .stopped)
    (hKeeps : ∀ move ∈ session, move.keepsListener = true) :
    let stopped := (create config platform).run earlier
    let begun := stopped.start (some listener) now
    let switch := begun.run session
    let notice (view : List Device × Option Device) : Notice := .devices listener view.1 view.2
    begun.deviceNotices = stopped.deviceNotices ++ [notice begun.view] ∧
      (∃ views, switch.deviceNotices = begun.deviceNotices ++ views.map notice ∧
        (begun.view :: views).IsChain (· ≠ ·) ∧
        (begun.view :: views).getLast? = some switch.view) ∧
      ∀ later : Nat,
        let pumped := switch.pumped later
        (∀ callback, (switch.handle callback later).deviceNotices =
          switch.deviceNotices ++ switch.tidings (switch.handle callback later) listener) ∧
        (switch.poll later).deviceNotices =
          switch.deviceNotices ++ switch.tidings (switch.poll later) listener ∧
        (switch.activate later).2.deviceNotices =
          pumped.deviceNotices ++ pumped.tidings (switch.activate later).2 listener ∧
        (∀ device, (switch.select device later).deviceNotices =
          pumped.deviceNotices ++ pumped.tidings (switch.select device later) listener) ∧
        (switch.clearSelection later).deviceNotices =
          pumped.deviceNotices ++ pumped.tidings (switch.clearSelection later) listener := by
  intro stopped begun switch notice
  obtain ⟨hRunning, hListener, hFirst⟩ := start_tells hStopped listener now
  have hBegun : ∃ views, Follows listener begun.deviceNotices begun.view views begun :=
    ⟨[], hRunning, hListener, (List.append_nil _).symm, .singleton _, rfl⟩
  obtain ⟨views, hSwitch⟩ := Follows.run hBegun hKeeps
  refine ⟨hFirst, ⟨views, hSwitch.notices, hSwitch.changes, hSwitch.last⟩, fun later => ?_⟩
  intro pumped
  have hPumped : pumped.listeners.device = some listener := by
    have hPump : (Move.operation .pump later : Move σ).keepsListener = true := rfl
    obtain ⟨_, hFollows⟩ := Follows.perform ⟨views, hSwitch⟩ hPump
    exact hFollows.device
  refine ⟨fun callback => ?_, ?_, ?_, fun device => ?_, ?_⟩
  · exact (tells_handle switch callback later).heard hSwitch.device
  · exact (tells_poll switch later).heard hSwitch.device
  · exact (tells_engage pumped later).heard hPumped
  · exact (tells_choose pumped device later).heard hPumped
  · exact (tells_unchoose pumped later).heard hPumped

/-- A headset connects, its link is refused on activation, and the jack takes over: what is selected
in between is not told. -/
theorem device_listener_exact_fallback :
    let config : SwitchConfig := ⟨.usual, usualLinkTimeout, true, false⟩
    let earlier : List (Move Handset) := [.operation (.start (some 1)) 0, .operation .stop 0]
    let session : List (Move Handset) := [
      .callback ⟨3, .bluetooth (.connected ⟨"Buds", "AA"⟩)⟩,
      .callback ⟨3, .wired (.plugged "Jack")⟩, .operation .pump 0,
      .platform ({ · with refusesLinks := true }), .operation .activate 0,
      .operation (.setLogging true) 0, .operation (.select .earpiece) 0, .operation .poll 7]
    let stopped := (create config Handset.fresh).run earlier
    let switch := (stopped.start (some 2) 0).run session
    stopped.phase = .stopped ∧ (∀ move ∈ session, move.keepsListener = true) ∧
      switch.deviceNotices.length = 6 ∧
      ∃ views, switch.deviceNotices = (stopped.start (some 2) 0).deviceNotices ++
          views.map (fun view => .devices 2 view.1 view.2) ∧
        ((stopped.start (some 2) 0).view :: views).IsChain (· ≠ ·) ∧
        ((stopped.start (some 2) 0).view :: views).getLast? = some switch.view := by
  intro config earlier session
  simp only
  have hStopped : ((create config Handset.fresh).run earlier).phase = .stopped := by decide
  have hKeeps : ∀ move ∈ session, move.keepsListener = true := by decide
  obtain ⟨_, hViews, _⟩ := device_listener_exact config Handset.fresh earlier session 2 0 hStopped hKeeps
  exact ⟨hStopped, hKeeps, by decide, hViews⟩

end Switch

end CallAudio
