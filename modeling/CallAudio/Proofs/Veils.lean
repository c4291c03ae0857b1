import CallAudio.Proofs.Operations

/-! # Behind a veil

A veil hides a part of a host: callbacks that wait, lines of the log, or what a platform knows of
headsets. What a switch does behind it is what it does in the open, as long as it asks the platform
about nothing that is hidden.
-/

namespace CallAudio

/-- A way to hide a part of a host. What the platform is asked about, other than headsets and their
links, still shows, and all that is done to a host can be done behind the veil. -/
structure Veil (σ : Type) [Platform σ] where
  hide : Host σ → Host σ
  adapterAvailable (host) :
    Platform.adapterAvailable (hide host).platform = Platform.adapterAvailable host.platform
  bluetoothPermitted (host) :
    Platform.bluetoothPermitted (hide host).platform = Platform.bluetoothPermitted host.platform
  registerRefusal? (host) :
    Platform.registerRefusal? (hide host).platform = Platform.registerRefusal? host.platform
  pluggedHeadset? (host) :
    Platform.pluggedHeadset? (hide host).platform = Platform.pluggedHeadset? host.platform
  hasEarpiece (host) : Platform.hasEarpiece (hide host).platform = Platform.hasEarpiece host.platform
  grantsFocus (host) : Platform.grantsFocus (hide host).platform = Platform.grantsFocus host.platform
  audioState (host) : Platform.audioState (hide host).platform = Platform.audioState host.platform
  bluetoothReceiver (host) : (hide host).bluetoothReceiver = host.bluetoothReceiver
  write (host) (line : LogLine) : (hide host).write line = hide (host.write line)
  notify (host) (notice : Notice) : (hide host).notify notice = hide (host.notify notice)
  deliver (host) (callback : Callback) :
    (hide host).deliver callback = hide (host.deliver callback)
  issue (host) (command : Command) : (hide host).issue command = hide (host.issue command)
  hear (host) (receiver : Option Nat) :
    { hide host with bluetoothReceiver := receiver } =
      hide { host with bluetoothReceiver := receiver }
  watch (host) (receiver : Option Nat) :
    { hide host with wiredReceiver := receiver } = hide { host with wiredReceiver := receiver }
  attend (host) (listener : Option Nat) :
    { hide host with focusListener := listener } = hide { host with focusListener := listener }

structure Veil.Clear {σ : Type} [Platform σ] (veil : Veil σ) : Prop where
  listenRefusal? (host) :
    Platform.listenRefusal? (veil.hide host).platform = Platform.listenRefusal? host.platform
  connectedHeadsets (host) :
    Platform.connectedHeadsets (veil.hide host).platform = Platform.connectedHeadsets host.platform
  linkAnswer (host) (address : String) :
    Platform.linkAnswer (veil.hide host).platform address =
      Platform.linkAnswer host.platform address

structure Veil.ShowsQueue {σ : Type} [Platform σ] (veil : Veil σ) : Prop where
  queue (host) : (veil.hide host).queue = host.queue
  requeue (host) (queue : List Callback) :
    { veil.hide host with queue } = veil.hide { host with queue }

attribute [simp] Veil.adapterAvailable Veil.bluetoothPermitted Veil.registerRefusal?
  Veil.pluggedHeadset? Veil.hasEarpiece Veil.grantsFocus Veil.audioState
  Veil.write Veil.notify Veil.deliver Veil.issue Veil.hear Veil.watch Veil.attend

variable {σ : Type} [Platform σ] (veil : Veil σ)

namespace Host

variable (host : Host σ)

def gateShut (host : Host σ) : Bool :=
  !(Platform.bluetoothPermitted host.platform && Platform.adapterAvailable host.platform)

@[simp] theorem writeAll_hide (lines : List LogLine) :
    (veil.hide host).writeAll lines = veil.hide (host.writeAll lines) := by
  induction lines generalizing host with
  | nil => rfl
  | cons line lines ih =>
    have hFirst := veil.write host line
    simp only [writeAll, List.foldl_cons] at ih ⊢
    rw [hFirst, ih]

@[simp] theorem reportBluetooth_hide (event : BluetoothEvent) :
    (veil.hide host).reportBluetooth event = veil.hide (host.reportBluetooth event) := by
  rw [reportBluetooth, reportBluetooth, veil.bluetoothReceiver]
  split <;> simp

@[simp] theorem devicesChanged_hide (listeners : Listeners) (available : List Device)
    (selected : Option Device) :
    listeners.devicesChanged available selected (veil.hide host) =
      veil.hide (listeners.devicesChanged available selected host) := by
  cases hListener : listeners.device <;> simp [Listeners.devicesChanged, hListener]

@[simp] theorem headsetEvent_hide (listeners : Listeners) (event : HeadsetEvent) :
    listeners.headsetEvent event (veil.hide host) =
      veil.hide (listeners.headsetEvent event host) := by
  cases hListener : listeners.headset <;> simp [Listeners.headsetEvent, hListener]

variable {veil} in
theorem enableLink_hide (hClear : veil.Clear) (address : String) :
    (veil.hide host).enableLink address =
      ((host.enableLink address).1, veil.hide (host.enableLink address).2) := by
  cases hAnswer : Platform.linkAnswer host.platform address <;>
    simp [enableLink, hClear.linkAnswer, hAnswer]

theorem greeted_hide (headsets : List Headset) :
    headsets.foldl (fun host headset => host.reportBluetooth (.connected headset))
        (veil.hide host) =
      veil.hide (headsets.foldl (fun host headset => host.reportBluetooth (.connected headset))
        host) := by
  induction headsets generalizing host with
  | nil => rfl
  | cons headset headsets ih =>
    rw [List.foldl_cons, reportBluetooth_hide, ih]
    rfl

variable {veil} in
theorem startListening_hide (hClear : veil.Clear) (session : Nat) :
    (veil.hide host).startListening session = (host.startListening session).map veil.hide := by
  simp only [startListening, hClear.listenRefusal?, hClear.connectedHeadsets]
  cases Platform.listenRefusal? host.platform with
  | some reason => rfl
  | none =>
    simp only [veil.issue, veil.hear, greeted_hide]
    rfl

@[simp] theorem stopListening_hide :
    (veil.hide host).stopListening = veil.hide host.stopListening := by
  simp [stopListening]

@[simp] theorem registerWired_hide (session : Nat) :
    (veil.hide host).registerWired session = (host.registerWired session).map veil.hide := by
  simp only [registerWired, veil.registerRefusal?, veil.issue, veil.watch]
  cases Platform.registerRefusal? host.platform <;> rfl

@[simp] theorem unregisterWired_hide :
    (veil.hide host).unregisterWired = veil.hide host.unregisterWired := by
  simp [unregisterWired]

@[simp] theorem requestFocus_hide (listener : Option Nat) :
    (veil.hide host).requestFocus listener =
      ((host.requestFocus listener).1, veil.hide (host.requestFocus listener).2) := by
  cases hGranted : Platform.grantsFocus host.platform <;> simp [requestFocus, hGranted]

@[simp] theorem abandonFocus_hide :
    (veil.hide host).abandonFocus = veil.hide host.abandonFocus := by
  simp [abandonFocus]

end Host

variable {veil} (host : Host σ)

namespace Tracker

variable (tracker : Tracker)

@[simp] theorem closeLink_hide : tracker.closeLink (veil.hide host) =
    ((tracker.closeLink host).1, veil.hide (tracker.closeLink host).2) := by
  rw [closeLink, closeLink]
  split
  · rfl
  · simp

theorem requestLink_hide (hClear : veil.Clear) (address : String) (now : Nat) :
    tracker.requestLink address now (veil.hide host) =
      ((tracker.requestLink address now host).1, (tracker.requestLink address now host).2.1,
        veil.hide (tracker.requestLink address now host).2.2) := by
  simp only [requestLink, veil.write, Host.enableLink_hide _ hClear]
  generalize (host.write _).enableLink address = asked
  obtain ⟨result, asked⟩ := asked
  cases result <;> simp

theorem openLink_hide (hClear : veil.Clear) (address : String) (now : Nat) :
    tracker.openLink address now (veil.hide host) =
      ((tracker.openLink address now host).1, (tracker.openLink address now host).2.1,
        veil.hide (tracker.openLink address now host).2.2) := by
  rw [openLink, openLink]
  split
  · simp
  split
  · simp
  · simp [requestLink_hide _ _ hClear]

theorem start_hide
    (hSpares : veil.Clear ∨ Platform.adapterAvailable host.platform = false) (session : Nat) :
    tracker.start session (veil.hide host) =
      ((tracker.start session host).1, (tracker.start session host).2.1,
        veil.hide (tracker.start session host).2.2) := by
  simp only [start, veil.adapterAvailable]
  split
  · simp
  split
  · rfl
  · rename_i hAdapter
    have hClear : veil.Clear := hSpares.resolve_right (by simpa using hAdapter)
    rw [Host.startListening_hide host hClear]
    cases host.startListening session <;> simp [Except.map]

theorem startPermitted_hide (hSpares : veil.Clear ∨ host.gateShut = true) (session : Nat) :
    tracker.startPermitted session (veil.hide host) =
      ((tracker.startPermitted session host).1, (tracker.startPermitted session host).2.1,
        veil.hide (tracker.startPermitted session host).2.2) := by
  simp only [startPermitted, veil.bluetoothPermitted]
  split
  · rename_i hPermitted
    refine start_hide host tracker (hSpares.imp_right fun hShut => ?_) session
    simpa [Host.gateShut, hPermitted] using hShut
  · rfl

@[simp] theorem stop_hide : tracker.stop (veil.hide host) =
    ((tracker.stop host).1, veil.hide (tracker.stop host).2) := by
  rw [stop, stop]
  split
  · rfl
  · simp

@[simp] theorem checkTimeout_hide (now : Nat) :
    tracker.checkTimeout now (veil.hide host) =
      ((tracker.checkTimeout now host).1, (tracker.checkTimeout now host).2.1,
        veil.hide (tracker.checkTimeout now host).2.2) := by
  rw [checkTimeout, checkTimeout]
  split
  · split <;> simp
  · rfl

end Tracker

namespace WiredTracker

variable (wired : WiredTracker)

@[simp] theorem start_hide (session : Nat) :
    wired.start session (veil.hide host) =
      ((wired.start session host).1, (wired.start session host).2.1,
        veil.hide (wired.start session host).2.2) := by
  rw [start, start, Host.registerWired_hide]
  split
  · rfl
  · cases host.registerWired session <;> simp [Except.map]

@[simp] theorem stop_hide : wired.stop (veil.hide host) =
    ((wired.stop host).1, veil.hide (wired.stop host).2) := by
  rw [stop, stop]
  split <;> simp

end WiredTracker

namespace Route

variable (route : Route) (tracker : Option Tracker)

@[simp] theorem closeAny_hide : closeAny tracker (veil.hide host) =
    ((closeAny tracker host).1, veil.hide (closeAny tracker host).2) := by
  cases tracker <;> simp [closeAny]

@[simp] theorem disable_hide (old : Device) (next : Option Device) :
    disable old next tracker (veil.hide host) =
      ((disable old next tracker host).1, veil.hide (disable old next tracker host).2) := by
  cases old with
  | bluetoothHeadset headset => cases hNext : next.any (·.isBluetooth) <;> simp [disable, hNext]
  | _ => simp [disable]

@[simp] theorem vacate_hide (next : Option Device) :
    route.vacate next tracker (veil.hide host) =
      ((route.vacate next tracker host).1, veil.hide (route.vacate next tracker host).2) := by
  cases hRouted : route.routed <;> simp [vacate, hRouted]

theorem enable_hide (hSpares : veil.Clear ∨ tracker = none) (device : Device) (now : Nat) :
    enable device tracker now (veil.hide host) =
      ((enable device tracker now host).1, (enable device tracker now host).2.1,
        veil.hide (enable device tracker now host).2.2) := by
  cases device with
  | bluetoothHeadset headset =>
    cases tracker with
    | none => simp [enable]
    | some tracker =>
      have hClear : veil.Clear := hSpares.resolve_right (by simp)
      simp [enable, Tracker.openLink_hide _ _ hClear]
  | _ => simp [enable]

theorem routeTo_hide (hSpares : veil.Clear ∨ tracker = none) (device : Option Device) (now : Nat) :
    route.routeTo device tracker now (veil.hide host) =
      { route.routeTo device tracker now host with
        host := veil.hide (route.routeTo device tracker now host).host } := by
  have hVacated : veil.Clear ∨ (route.vacate device tracker host).1 = none := by
    refine hSpares.imp_right fun hNone => ?_
    rw [fst_vacate, hNone]
    split <;> rfl
  rw [routeTo, routeTo]
  split
  · rfl
  cases device with
  | none => simp
  | some device =>
    simp only [vacate_hide, enable_hide _ _ hVacated]
    split <;> rfl

@[simp] theorem silence_hide : route.silence tracker (veil.hide host) =
    ((route.silence tracker host).1, veil.hide (route.silence tracker host).2) := by
  rw [silence, silence]
  split <;> simp

@[simp] theorem restore_hide : route.restore (veil.hide host) = veil.hide (route.restore host) := by
  cases hSaved : route.saved <;> simp [restore, hSaved]

@[simp] theorem deactivate_hide : route.deactivate tracker (veil.hide host) =
    ((route.deactivate tracker host).1, (route.deactivate tracker host).2.1,
      veil.hide (route.deactivate tracker host).2.2) := by
  rw [deactivate, deactivate]
  split
  · rfl
  · cases hHeld : route.focusHeld <;> simp

@[simp] theorem prepare_hide : route.prepare (veil.hide host) =
    ((route.prepare host).1, veil.hide (route.prepare host).2) := by
  rw [prepare, prepare]
  split
  · rfl
  split
  · rfl
  · simp

@[simp] theorem takeFocus_hide : route.takeFocus (veil.hide host) =
    ((route.takeFocus host).1, (route.takeFocus host).2.1,
      veil.hide (route.takeFocus host).2.2) := by
  rw [takeFocus, takeFocus]
  split
  · rfl
  simp only [Host.requestFocus_hide]
  generalize host.requestFocus route.focusListener = asked
  obtain ⟨granted, asked⟩ := asked
  cases granted <;> simp

@[simp] theorem activate_hide : route.activate (veil.hide host) =
    ((route.activate host).1, (route.activate host).2.1,
      veil.hide (route.activate host).2.2) := by
  simp [activate]

end Route

namespace Switch

def veiled (switch : Switch σ) (veil : Veil σ) : Switch σ :=
  { switch with host := veil.hide switch.host }

variable (switch : Switch σ) {before after : Switch σ}

@[simp] theorem write_veiled (line : LogLine) :
    (switch.veiled veil).write line = (switch.write line).veiled veil := by
  simp [write, veiled]

@[simp] theorem notifyDevices_veiled :
    (switch.veiled veil).notifyDevices = switch.notifyDevices.veiled veil := by
  simp [notifyDevices, veiled]

@[simp] theorem announce_veiled (view : List Device × Option Device) :
    (switch.veiled veil).announce view = (switch.announce view).veiled veil := by
  have hView : (switch.veiled veil).view = switch.view := rfl
  rw [announce, announce, hView]
  split
  · rfl
  · exact notifyDevices_veiled switch

@[simp] theorem notifyHeadset_veiled (event : HeadsetEvent) :
    (switch.veiled veil).notifyHeadset event = (switch.notifyHeadset event).veiled veil := by
  simp [notifyHeadset, veiled]

@[simp] theorem recompute_veiled (rejected : List Device) :
    (switch.veiled veil).recompute rejected = (switch.recompute rejected).veiled veil := by
  have hCandidates : (switch.veiled veil).candidates = switch.candidates := by
    simp [candidates, veiled]
  have hExcludes : (switch.veiled veil).excludes rejected = switch.excludes rejected := rfl
  simp only [recompute, hCandidates, hExcludes]
  simp [veiled]

@[simp] theorem fallBack_veiled (device : Device) (rejected : List Device) :
    (switch.veiled veil).fallBack device rejected =
      (switch.fallBack device rejected).veiled veil := by
  have hUnpin : (switch.veiled veil).unpin device = (switch.unpin device).veiled veil := rfl
  simp [fallBack, hUnpin]

@[simp] theorem yieldFailed_veiled (event : HeadsetEvent) :
    (switch.veiled veil).yieldFailed event = (switch.yieldFailed event).veiled veil := by
  rw [yieldFailed, yieldFailed]
  split
  · rw [write_veiled]
    rfl
  · rfl

@[simp] theorem reopenDropped_veiled (event : HeadsetEvent) :
    (switch.veiled veil).reopenDropped event = (switch.reopenDropped event).veiled veil := by
  have hSame : (switch.veiled veil).tracker = switch.tracker ∧
      (switch.veiled veil).route = switch.route := ⟨rfl, rfl⟩
  rw [reopenDropped, reopenDropped, hSame.1, hSame.2]
  split
  · exact write_veiled { switch with route := switch.route.release event.device } _
  · rfl

@[simp] theorem applyBluetooth_veiled (event : BluetoothEvent) :
    (switch.veiled veil).applyBluetooth event =
      ((switch.applyBluetooth event).1, (switch.applyBluetooth event).2.veiled veil) := by
  have hTracker : (switch.veiled veil).tracker = switch.tracker := rfl
  rw [applyBluetooth, applyBluetooth, hTracker]
  split
  · rfl
  cases switch.tracker.report? event with
  | none => rfl
  | some report =>
    have hHeard : ({ switch.veiled veil with
        tracker := switch.tracker.apply event
        host := (switch.veiled veil).host.writeAll (switch.tracker.remarks event) } :
          Switch σ) = ({ switch with
        tracker := switch.tracker.apply event
        host := switch.host.writeAll (switch.tracker.remarks event) } : Switch σ).veiled veil := by
      simp [veiled]
    simp only [hHeard, notifyHeadset_veiled, yieldFailed_veiled, reopenDropped_veiled]

@[simp] theorem applyCallback_veiled (callback : Callback) :
    (switch.veiled veil).applyCallback callback =
      ((switch.applyCallback callback).1, (switch.applyCallback callback).2.veiled veil) := by
  have hSame : (switch.veiled veil).session = switch.session ∧
      (switch.veiled veil).phase = switch.phase := ⟨rfl, rfl⟩
  rw [applyCallback, applyCallback, hSame.1, hSame.2]
  split
  · simp
  split
  · simp
  · simp [applyWired, veiled]

@[simp] theorem startWired_veiled :
    (switch.veiled veil).startWired = switch.startWired.veiled veil := by
  have hBegun : (switch.veiled veil).wired.start (switch.veiled veil).session
      (switch.veiled veil).host =
        switch.wired.start switch.session (veil.hide switch.host) := rfl
  rw [startWired, startWired, hBegun, WiredTracker.start_hide]
  generalize switch.wired.start switch.session switch.host = begun
  obtain ⟨result, wired, host⟩ := begun
  cases result with
  | ok => rfl
  | error error => exact write_veiled { switch with wired, host } _

@[simp] theorem enter_veiled (listener : Option Nat) :
    (switch.veiled veil).enter listener = (switch.enter listener).veiled veil := by
  rw [enter, enter, write_veiled]
  split <;> rfl

@[simp] theorem deactivateRoute_veiled :
    (switch.veiled veil).deactivateRoute = switch.deactivateRoute.veiled veil := by
  simp [deactivateRoute, veiled]

@[simp] theorem disengage_veiled :
    (switch.veiled veil).disengage = switch.disengage.veiled veil := by
  have hPhase : (switch.veiled veil).phase = switch.phase := rfl
  rw [disengage, disengage, hPhase, deactivateRoute_veiled]
  split <;> rfl

@[simp] theorem resumable_veiled : (switch.veiled veil).resumable = switch.resumable :=
  congrArg (fun permitted => switch.phase ≠ .stopped && !switch.tracker.listening && permitted)
    (veil.bluetoothPermitted switch.host)

/-! ## What asks for headsets

Routing may ask a headset for a link, unless the switch does not listen for headsets at all. What
begins to listen gets no further than the gate where that is shut.
-/

/-- Routing asks the platform about nothing that the veil hides. -/
def Spares (veil : Veil σ) (switch : Switch σ) : Prop :=
  veil.Clear ∨ switch.tracker.listening = false

theorem Spares.listening? (h : Spares veil switch) :
    veil.Clear ∨ switch.tracker.listening? = none :=
  h.imp_right fun hDeaf => by simp [Tracker.listening?, hDeaf]

theorem Spares.reroutes (h : Spares veil before) (hReroutes : before.Reroutes after) :
    Spares veil after :=
  h.imp_right fun hDeaf => hReroutes.steps.headsets.1.trans hDeaf

theorem routeOnce_veiled (hSpares : Spares veil switch) (now : Nat) :
    (switch.veiled veil).routeOnce now =
      ((switch.routeOnce now).1, (switch.routeOnce now).2.veiled veil) := by
  simp [routeOnce, veiled, Route.routeTo_hide _ _ _ hSpares.listening?]

theorem routeWithin_veiled (hSpares : Spares veil switch) (tries : Nat) (rejected : List Device)
    (now : Nat) :
    (switch.veiled veil).routeWithin tries rejected now =
      (switch.routeWithin tries rejected now).veiled veil := by
  induction tries generalizing switch rejected with
  | zero => rfl
  | succ tries ih =>
    have hSelected : (switch.veiled veil).selector.selected = switch.selector.selected := rfl
    have hNext := hSpares.reroutes (reroutes_routeOnce switch now)
    simp only [routeWithin, routeOnce_veiled switch hSpares, hSelected]
    generalize switch.routeOnce now = once at *
    obtain ⟨result, next⟩ := once
    cases result with
    | ok => rfl
    | error error =>
      cases switch.selector.selected with
      | none => rfl
      | some device =>
        have hFallen := (reroutes_write next (unroutedLine device error)).trans
          (reroutes_fallBack _ device (rejected ++ [device]))
        simp only [write_veiled, fallBack_veiled, ih _ (hNext.reroutes hFallen)]
        split <;> rfl

theorem applyRoute_veiled (hSpares : Spares veil switch) (now : Nat) :
    (switch.veiled veil).applyRoute now = (switch.applyRoute now).veiled veil :=
  routeWithin_veiled switch hSpares _ _ _

theorem refreshSince_veiled (hSpares : Spares veil switch) (view : List Device × Option Device)
    (now : Nat) :
    (switch.veiled veil).refreshSince view now = (switch.refreshSince view now).veiled veil := by
  have hSelected := hSpares.reroutes (reroutes_recompute switch [])
  rw [refreshSince, recompute_veiled, applyRoute_veiled _ hSelected, announce_veiled]
  rfl

theorem refresh_veiled (hSpares : Spares veil switch) (now : Nat) :
    (switch.veiled veil).refresh now = (switch.refresh now).veiled veil :=
  refreshSince_veiled switch hSpares switch.view now

theorem Spares.applyCallback {switch : Switch σ} (h : Spares veil switch) (callback : Callback) :
    Spares veil (switch.applyCallback callback).2 :=
  h.imp_right (listening_applyCallback switch callback).trans

theorem handle_veiled (hSpares : Spares veil switch) (callback : Callback) (now : Nat) :
    (switch.veiled veil).handle callback now = (switch.handle callback now).veiled veil := by
  simp only [handle, applyCallback_veiled]
  split
  · exact refresh_veiled _ (hSpares.applyCallback callback) now
  · rfl

theorem poll_veiled (hSpares : Spares veil switch) (now : Nat) :
    (switch.veiled veil).poll now = (switch.poll now).veiled veil := by
  have hTracker : (switch.veiled veil).tracker = switch.tracker := rfl
  have hHost : (switch.veiled veil).host = veil.hide switch.host := rfl
  have hSteps := Tracker.checkTimeout_steps switch.tracker now switch.host
  rw [poll, poll, hTracker, hHost, Tracker.checkTimeout_hide]
  split
  · rfl
  generalize switch.tracker.checkTimeout now switch.host = checked at *
  obtain ⟨event, tracker, host⟩ := checked
  cases event with
  | none => rfl
  | some event =>
    have hChecked : ({ switch.veiled veil with
        tracker, host := veil.hide host } : Switch σ) =
          ({ switch with tracker, host } : Switch σ).veiled veil := rfl
    have hSame : Spares veil ({ switch with tracker, host } : Switch σ) :=
      hSpares.imp_right hSteps.headsets.1.trans
    simp only [hChecked, notifyHeadset_veiled, yieldFailed_veiled]
    exact refresh_veiled _ ((hSame.reroutes (reroutes_notifyHeadset _ event)).reroutes
      (reroutes_yieldFailed _ event)) now

theorem startBluetooth_veiled (hSpares : veil.Clear ∨ switch.host.gateShut = true) :
    (switch.veiled veil).startBluetooth = switch.startBluetooth.veiled veil := by
  have hBegun : (switch.veiled veil).tracker.startPermitted (switch.veiled veil).session
      (switch.veiled veil).host =
        switch.tracker.startPermitted switch.session (veil.hide switch.host) := rfl
  rw [startBluetooth, startBluetooth, hBegun, Tracker.startPermitted_hide _ _ hSpares]
  generalize switch.tracker.startPermitted switch.session switch.host = begun
  obtain ⟨result, tracker, host⟩ := begun
  cases result with
  | ok => rfl
  | error error => exact write_veiled { switch with tracker, host } _

theorem engage_veiled (hSpares : Spares veil switch) (now : Nat) :
    (switch.veiled veil).engage now =
      ((switch.engage now).1, (switch.engage now).2.veiled veil) := by
  have hSame : (switch.veiled veil).phase = switch.phase ∧
      (switch.veiled veil).route = switch.route ∧
      (switch.veiled veil).host = veil.hide switch.host := ⟨rfl, rfl, rfl⟩
  rw [engage, engage, hSame.1, hSame.2.1, hSame.2.2, Route.activate_hide]
  split
  · rfl
  generalize switch.route.activate switch.host = taken
  obtain ⟨result, route, host⟩ := taken
  have hTaken : ({ switch.veiled veil with
      phase := .activated, route, host := veil.hide host } : Switch σ) =
        ({ switch with phase := .activated, route, host } : Switch σ).veiled veil := rfl
  cases result with
  | error error => simp only [hTaken, write_veiled]
  | ok =>
    have hReady : Spares veil ({ switch with phase := .activated, route, host } : Switch σ) :=
      hSpares
    simp only [hTaken, applyRoute_veiled _ hReady, announce_veiled]
    rfl

theorem choose_veiled (hSpares : Spares veil switch) (device : Device) (now : Nat) :
    (switch.veiled veil).choose device now = (switch.choose device now).veiled veil := by
  have hSame : (switch.veiled veil).phase = switch.phase ∧
      (switch.veiled veil).selector = switch.selector ∧
      (switch.veiled veil).view = switch.view ∧
      (switch.veiled veil).pinTo device = (switch.pinTo device).veiled veil :=
    ⟨rfl, rfl, rfl, rfl⟩
  have hPinned : Spares veil (switch.pinTo device) := by
    refine hSpares.imp_right fun hDeaf => ?_
    rcases switch.tracker.forgive_eq device with hEq | ⟨address, hEq⟩ <;>
      simpa [pinTo, hEq, Tracker.clearFailure] using hDeaf
  rw [choose, choose, hSame.1, hSame.2.1, hSame.2.2.1, hSame.2.2.2]
  split
  · exact write_veiled switch _
  split
  · exact write_veiled switch _
  · exact refreshSince_veiled _ hPinned _ now

theorem unchoose_veiled (hSpares : Spares veil switch) (now : Nat) :
    (switch.veiled veil).unchoose now = (switch.unchoose now).veiled veil := by
  have hSame : (switch.veiled veil).phase = switch.phase ∧
      (switch.veiled veil).selector = switch.selector := ⟨rfl, rfl⟩
  have hFreed : Spares veil { switch with selector := switch.selector.clearPin } := hSpares
  rw [unchoose, unchoose, hSame.1, hSame.2]
  split
  · rfl
  · exact refresh_veiled _ hFreed now

theorem resume_veiled (hSpares : veil.Clear ∨ switch.host.gateShut = true) :
    (switch.veiled veil).resume = switch.resume.veiled veil := by
  rw [resume, resume, resumable_veiled]
  split
  · rw [write_veiled, startBluetooth_veiled]
    simpa [write, Host.gateShut] using hSpares
  · rfl

/-! ## Whole operations -/

theorem leave_veiled (hShows : veil.ShowsQueue) :
    (switch.veiled veil).leave = switch.leave.veiled veil := by
  simp only [leave, veiled, Tracker.stop_hide, WiredTracker.stop_hide, hShows.requeue]

theorem stop_veiled (hShows : veil.ShowsQueue) :
    (switch.veiled veil).stop = switch.stop.veiled veil := by
  have hPhase : (switch.veiled veil).phase = switch.phase := rfl
  rw [stop, stop, hPhase, write_veiled, deactivateRoute_veiled, leave_veiled _ hShows]
  split <;> rfl

theorem absorb_veiled (hShows : veil.ShowsQueue) :
    (switch.veiled veil).absorb = switch.absorb.veiled veil := by
  have hTaken : (switch.veiled veil).requeue [] = (switch.requeue []).veiled veil :=
    congrArg (fun host => { switch with host }) (hShows.requeue switch.host [])
  have hQueue : (switch.veiled veil).host.queue = switch.host.queue := hShows.queue switch.host
  change (switch.veiled veil).host.queue.foldl _ ((switch.veiled veil).requeue []) =
    (switch.host.queue.foldl _ (switch.requeue [])).veiled veil
  rw [hQueue, hTaken]
  generalize switch.requeue [] = begun
  induction switch.host.queue generalizing begun with
  | nil => rfl
  | cons callback queue ih =>
    rw [List.foldl_cons, applyCallback_veiled]
    exact ih _

theorem next?_veiled (hShows : veil.ShowsQueue) (hSpares : Spares veil switch) (now : Nat) :
    (switch.veiled veil).next? now = (switch.next? now).map (veiled · veil) := by
  have hQueue : (switch.veiled veil).host.queue = switch.host.queue := hShows.queue switch.host
  rw [next?, next?, hQueue]
  cases switch.host.queue with
  | nil => rfl
  | cons callback rest =>
    have hTaken : (switch.veiled veil).requeue rest = (switch.requeue rest).veiled veil :=
      congrArg (fun host => { switch with host }) (hShows.requeue switch.host rest)
    have hHandled := handle_veiled (switch.requeue rest) hSpares callback now
    rw [← hTaken] at hHandled
    exact congrArg some hHandled

theorem Spares.handle {switch : Switch σ} (h : Spares veil switch) (callback : Callback)
    (now : Nat) : Spares veil (switch.handle callback now) :=
  (h.applyCallback callback).reroutes (reroutes_handle switch callback now)

theorem Spares.next? {switch next : Switch σ} (h : Spares veil switch) {now : Nat}
    (hNext : switch.next? now = some next) : Spares veil next := by
  rw [Switch.next?] at hNext
  split at hNext
  · cases hNext
  · rename_i callback rest _
    cases hNext
    have hTaken : Spares veil (switch.requeue rest) := h
    exact hTaken.handle callback now

theorem drainWithin_veiled (hShows : veil.ShowsQueue) (hSpares : Spares veil switch)
    (count now : Nat) :
    (switch.veiled veil).drainWithin count now =
        ((switch.drainWithin count now).1, (switch.drainWithin count now).2.veiled veil) ∧
      Spares veil (switch.drainWithin count now).2 := by
  induction count generalizing switch with
  | zero => exact ⟨rfl, hSpares⟩
  | succ count ih =>
    rw [drainWithin, drainWithin, next?_veiled switch hShows hSpares]
    cases hNext : switch.next? now with
    | none => exact ⟨rfl, hSpares⟩
    | some next =>
      obtain ⟨hRest, hLast⟩ := ih next (hSpares.next? hNext)
      simp only [Option.map_some, hRest]
      exact ⟨trivial, hLast⟩

theorem pump_veiled (hShows : veil.ShowsQueue) (hSpares : Spares veil switch) (now : Nat) :
    (switch.veiled veil).pump now =
        ((switch.pump now).1, (switch.pump now).2.veiled veil) ∧
      Spares veil (switch.pump now).2 := by
  have hQueue : (switch.veiled veil).host.queue = switch.host.queue := hShows.queue switch.host
  obtain ⟨hDrained, hLast⟩ := drainWithin_veiled switch hShows hSpares
    (3 * switch.host.queue.length) now
  simp only [pump, drain, hQueue, hDrained]
  exact ⟨by rw [poll_veiled _ hLast], hLast.reroutes (reroutes_poll _ now)⟩

theorem tracker_startBluetooth_of_shut (hShut : switch.host.gateShut = true) :
    switch.startBluetooth.tracker = switch.tracker := by
  have hKept : (switch.tracker.startPermitted switch.session switch.host).2.1 = switch.tracker := by
    rw [Tracker.startPermitted, Tracker.start]
    split
    · rename_i hPermitted
      have hAdapter : Platform.adapterAvailable switch.host.platform = false := by
        simpa [Host.gateShut, hPermitted] using hShut
      simp only [hAdapter]
      split <;> rfl
    · rfl
  rw [startBluetooth]
  generalize switch.tracker.startPermitted switch.session switch.host = begun at *
  obtain ⟨result, tracker, host⟩ := begun
  cases result <;> exact hKept

def Shielded (veil : Veil σ) (switch : Switch σ) : Prop :=
  veil.Clear ∨ switch.tracker.listening = false ∧ switch.host.gateShut = true

theorem Shielded.gate {switch : Switch σ} (h : Shielded veil switch) :
    veil.Clear ∨ switch.host.gateShut = true :=
  h.imp_right And.right

theorem Shielded.startBluetooth {switch : Switch σ} (h : Shielded veil switch) :
    Spares veil switch.startBluetooth := by
  refine h.imp_right fun ⟨hDeaf, hShut⟩ => ?_
  rwa [tracker_startBluetooth_of_shut switch hShut]

theorem Shielded.enter {switch : Switch σ} (h : Shielded veil switch) (listener : Option Nat) :
    Shielded veil (switch.enter listener) := by
  obtain ⟨_, hTracker, _, _, _, line, hHost⟩ := enter_eq switch listener
  simpa [Shielded, hTracker, hHost, Host.gateShut] using h

theorem Spares.absorb {switch : Switch σ} (h : Spares veil switch) : Spares veil switch.absorb := by
  let kept (after : Switch σ) : Prop := Spares veil after
  have hCallback : ∀ (after : Switch σ) callback, kept after →
      kept (after.applyCallback callback).2 :=
    fun _ callback hAfter => Spares.applyCallback hAfter callback
  exact absorb_induction hCallback h

theorem Shielded.begun {switch : Switch σ} (h : Shielded veil switch) (listener : Option Nat) :
    Spares veil (switch.enter listener).startBluetooth.startWired.absorb := by
  have hBegun := (h.enter listener).startBluetooth
  generalize (switch.enter listener).startBluetooth = begun at *
  obtain ⟨wired, host, hEq⟩ := startWired_eq begun
  rw [hEq]
  exact Spares.absorb hBegun

theorem start_veiled (hShows : veil.ShowsQueue) (hShielded : Shielded veil switch)
    (listener : Option Nat) (now : Nat) :
    (switch.veiled veil).start listener now = (switch.start listener now).veiled veil := by
  have hPhase : (switch.veiled veil).phase = switch.phase := rfl
  have hSelected := (hShielded.begun listener).reroutes (reroutes_recompute _ [])
  rw [start, start, hPhase]
  split
  · exact write_veiled switch _
  · simp only [enter_veiled, startBluetooth_veiled _ (hShielded.enter listener).gate,
      startWired_veiled, absorb_veiled _ hShows, recompute_veiled, applyRoute_veiled _ hSelected,
      notifyDevices_veiled]

end Switch

def Operation.opens : Operation → Bool
  | start _ => true
  | hostResumed => true
  | _ => false

namespace Switch

variable (switch : Switch σ)

/-- An operation that asks about nothing hidden does the same behind the veil. -/
theorem perform_veiled (hShows : veil.ShowsQueue) (hSpares : Spares veil switch)
    {operation : Operation} (hGate : operation.opens = true → Shielded veil switch)
    (hLogging : ∀ on, operation = .setLogging on →
      (switch.veiled veil).setLogging on = (switch.setLogging on).veiled veil) (now : Nat) :
    (switch.veiled veil).perform operation now = (switch.perform operation now).veiled veil := by
  obtain ⟨hPump, hPumped⟩ := pump_veiled switch hShows hSpares now
  replace hPumped : Spares veil (switch.pumped now) := hPumped
  have hBoth : (switch.veiled veil).pumped now = (switch.pumped now).veiled veil :=
    congrArg Prod.snd hPump
  cases operation with
  | start listener => exact start_veiled switch hShows (hGate rfl) listener now
  | stop => exact stop_veiled switch hShows
  | activate =>
    simp only [perform, activate, hBoth]
    rw [engage_veiled _ hPumped]
  | deactivate => simp only [perform, deactivate, hBoth, disengage_veiled]
  | select device => simp only [perform, select, hBoth, choose_veiled _ hPumped]
  | clearSelection => simp only [perform, clearSelection, hBoth, unchoose_veiled _ hPumped]
  | hostResumed =>
    have hShielded := hGate rfl
    have hResumed : Spares veil switch.resume := by
      rw [resume]
      split
      · refine Shielded.startBluetooth ?_
        simpa [Shielded, write, Host.gateShut] using hShielded
      · exact hSpares
    simp only [perform, hostResumed, resumable_veiled, resume_veiled switch hShielded.gate]
    split
    · exact congrArg Prod.snd (pump_veiled _ hShows hResumed now).1
    · rfl
  | pump => exact hBoth
  | poll => exact poll_veiled switch hSpares now
  | next =>
    simp only [perform, next?_veiled switch hShows hSpares]
    cases switch.next? now <;> rfl
  | setLogging on => exact hLogging on rfl
  | _ => rfl

end Switch

end CallAudio
