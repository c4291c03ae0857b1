import CallAudio.Proofs.Holdings
import CallAudio.Proofs.Layers

/-! # Starting again

A stopped switch is as good as new. It keeps its listeners to headsets and to focus, whether it logs,
and its count of sessions; everything else is as in a switch just made for the same platform. A
session that begins then cannot be told from a first one, by the application or by the platform.
-/

namespace CallAudio

def Notice.isDevices : Notice → Bool
  | devices .. => true
  | _ => false

namespace Host

variable {σ : Type}

/-- Everything but the log and the notices about headsets and focus. -/
def shown (host : Host σ) : σ × (Option Nat × Option Nat × Option Nat) × List Callback ×
    List Command × List Notice :=
  (host.platform, host.registrations, host.queue, host.commands,
    host.notices.filter Notice.isDevices)

@[simp] theorem shown_write (host : Host σ) (line : LogLine) :
    (host.write line).shown = host.shown := by
  rw [write]
  split <;> rfl

@[simp] theorem shown_writeAll (host : Host σ) (lines : List LogLine) :
    (host.writeAll lines).shown = host.shown := by
  induction lines generalizing host with
  | nil => rfl
  | cons line lines ih => exact (ih (host.write line)).trans (shown_write host line)

@[simp] theorem shown_headsetEvent (host : Host σ) (listeners : Listeners) (event : HeadsetEvent) :
    (listeners.headsetEvent event host).shown = host.shown := by
  rw [Listeners.headsetEvent]
  split
  · refine Eq.trans ?_ (shown_write host
      (.debug "Notifying Bluetooth headset listener" [("event", event.text)]))
    simp [shown, notify, registrations, Notice.isDevices]
  · rfl

/-- Two hosts, of the sessions `here` and `there`, that differ only in what was said and told before,
in the log and in what is told about headsets and focus. -/
structure Resembles (said : List Command) (told : List Notice) (here there : Nat) (a b : Host σ) :
    Prop where
  platform : a.platform = b.platform
  bluetooth : ∃ registered : Bool,
    a.bluetoothReceiver = (if registered then some here else none) ∧
      b.bluetoothReceiver = (if registered then some there else none)
  wired : ∃ registered : Bool,
    a.wiredReceiver = (if registered then some here else none) ∧
      b.wiredReceiver = (if registered then some there else none)
  focus : a.focusListener = b.focusListener
  waiting : ∃ reports : List Report,
    a.queue = reports.map (Callback.mk here) ∧ b.queue = reports.map (Callback.mk there)
  commands : a.commands = said ++ b.commands
  notices : a.notices.filter Notice.isDevices = told ++ b.notices.filter Notice.isDevices

namespace Resembles

variable {said : List Command} {told : List Notice} {here there : Nat} {a a' b b' : Host σ}

theorem congr (h : Resembles said told here there a b) (ha : a'.shown = a.shown)
    (hb : b'.shown = b.shown) : Resembles said told here there a' b' := by
  simp only [shown, registrations, Prod.mk.injEq] at ha hb
  obtain ⟨haPlatform, ⟨haBluetooth, haWired, haFocus⟩, haQueue, haCommands, haNotices⟩ := ha
  obtain ⟨hbPlatform, ⟨hbBluetooth, hbWired, hbFocus⟩, hbQueue, hbCommands, hbNotices⟩ := hb
  constructor
  · rw [haPlatform, hbPlatform]
    exact h.platform
  · rw [haBluetooth, hbBluetooth]
    exact h.bluetooth
  · rw [haWired, hbWired]
    exact h.wired
  · rw [haFocus, hbFocus]
    exact h.focus
  · rw [haQueue, hbQueue]
    exact h.waiting
  · rw [haCommands, hbCommands]
    exact h.commands
  · rw [haNotices, hbNotices]
    exact h.notices

theorem notify (h : Resembles said told here there a b) (notice : Notice) :
    Resembles said told here there (a.notify notice) (b.notify notice) :=
  { h with
    notices := by simp only [Host.notify, List.filter_append, h.notices, List.append_assoc] }

theorem devicesChanged (h : Resembles said told here there a b) {first last : Listeners}
    (hDevice : first.device = last.device) (available : List Device) (selected : Option Device) :
    Resembles said told here there (first.devicesChanged available selected a)
      (last.devicesChanged available selected b) := by
  rw [Listeners.devicesChanged, Listeners.devicesChanged, hDevice]
  split
  · exact (h.congr (shown_write _ _) (shown_write _ _)).notify _
  · exact h.congr (shown_write _ _) (shown_write _ _)

variable [Platform σ]

theorem issue (h : Resembles said told here there a b) (command : Command) :
    Resembles said told here there (a.issue command) (b.issue command) :=
  { h with
    platform := congrArg (Platform.carryOut command) h.platform
    commands := by simp only [Host.issue, h.commands, List.append_assoc] }

theorem startListening (h : Resembles said told here there a b) :
    (∃ reason, a.startListening here = .error reason ∧ b.startListening there = .error reason) ∨
      ∃ begun begun', a.startListening here = .ok begun ∧ b.startListening there = .ok begun' ∧
        Resembles said told here there begun begun' := by
  have hGreeted : ∀ (headsets : List Headset) (a b : Host σ),
      Resembles said told here there a b → a.bluetoothReceiver = some here →
      b.bluetoothReceiver = some there →
      Resembles said told here there
        (headsets.foldl (fun host headset => host.reportBluetooth (.connected headset)) a)
        (headsets.foldl (fun host headset => host.reportBluetooth (.connected headset)) b) := by
    intro headsets
    induction headsets with
    | nil => exact fun _ _ hSame _ _ => hSame
    | cons headset headsets ih =>
      intro a b hSame ha hb
      obtain ⟨reports, haQueue, hbQueue⟩ := hSame.waiting
      rw [List.foldl_cons, List.foldl_cons]
      simp only [Host.reportBluetooth, ha, hb]
      refine ih (a.deliver _) (b.deliver _) { hSame with waiting := ?_ } ha hb
      exact ⟨reports ++ [.bluetooth (.connected headset)], by simp [Host.deliver, haQueue],
        by simp [Host.deliver, hbQueue]⟩
  simp only [Host.startListening, h.platform]
  cases Platform.listenRefusal? b.platform with
  | some reason => exact .inl ⟨reason, rfl, rfl⟩
  | none =>
    refine .inr ⟨_, _, rfl, rfl, hGreeted _ _ _ ?_ rfl rfl⟩
    exact { h.issue .startListening with bluetooth := ⟨true, rfl, rfl⟩ }

theorem registerWired (h : Resembles said told here there a b) :
    (∃ reason, a.registerWired here = .error reason ∧ b.registerWired there = .error reason) ∨
      ∃ begun begun', a.registerWired here = .ok begun ∧ b.registerWired there = .ok begun' ∧
        Resembles said told here there begun begun' := by
  simp only [Host.registerWired, h.platform]
  cases Platform.registerRefusal? b.platform with
  | some reason => exact .inl ⟨reason, rfl, rfl⟩
  | none =>
    refine .inr ⟨_, _, rfl, rfl, ?_⟩
    exact { h.issue .registerWired with wired := ⟨true, rfl, rfl⟩ }

theorem startPermitted (h : Resembles said told here there a b) (tracker : Tracker) :
    let first := tracker.startPermitted here a
    let last := tracker.startPermitted there b
    first.1 = last.1 ∧ first.2.1 = last.2.1 ∧
      Resembles said told here there first.2.2 last.2.2 := by
  simp only [Tracker.startPermitted, Tracker.start, h.platform]
  split
  · split
    · exact ⟨rfl, rfl, h.congr (shown_write _ _) (shown_write _ _)⟩
    split
    · exact ⟨rfl, rfl, h⟩
    rcases h.startListening with ⟨reason, ha, hb⟩ | ⟨begun, begun', ha, hb, hBegun⟩
    · rw [ha, hb]
      exact ⟨rfl, rfl, h⟩
    · rw [ha, hb]
      exact ⟨rfl, rfl, hBegun.congr (shown_write _ _) (shown_write _ _)⟩
  · exact ⟨rfl, rfl, h⟩

theorem startWired (h : Resembles said told here there a b) (wired : WiredTracker) :
    let first := wired.start here a
    let last := wired.start there b
    first.1 = last.1 ∧ first.2.1 = last.2.1 ∧
      Resembles said told here there first.2.2 last.2.2 := by
  simp only [WiredTracker.start]
  split
  · exact ⟨rfl, rfl, h⟩
  rcases h.registerWired with ⟨reason, ha, hb⟩ | ⟨begun, begun', ha, hb, hBegun⟩
  · rw [ha, hb]
    exact ⟨rfl, rfl, h⟩
  · rw [ha, hb]
    refine ⟨rfl, ?_, hBegun.congr (shown_write _ _) (shown_write _ _)⟩
    simp only [hBegun.platform]

end Resembles

end Host

namespace Switch

variable {σ : Type}

structure Alike (said : List Command) (told : List Notice) (a b : Switch σ) : Prop where
  phase : a.phase = b.phase
  tracker : a.tracker = b.tracker
  wired : a.wired = b.wired
  route : { a.route with focusListener := none } = { b.route with focusListener := none }
  selector : a.selector = b.selector
  device : a.listeners.device = b.listeners.device
  host : Host.Resembles said told a.session b.session a.host b.host

namespace Alike

variable {said : List Command} {told : List Notice} {a a' b b' : Switch σ}

/-- Only the host changed, and only where it does not show. -/
theorem rehost (h : Alike said told a b) {first last : Host σ} (hFirst : first.shown = a.host.shown)
    (hLast : last.shown = b.host.shown) :
    Alike said told { a with host := first } { b with host := last } :=
  { h with host := h.host.congr hFirst hLast }

theorem routed (h : Alike said told a b) : a.route.routed = b.route.routed := by
  have hRouted := congrArg Route.routed h.route
  exact hRouted

theorem notifyHeadset (h : Alike said told a b) (event : HeadsetEvent) :
    Alike said told (a.notifyHeadset event) (b.notifyHeadset event) :=
  h.rehost (Host.shown_headsetEvent _ _ event) (Host.shown_headsetEvent _ _ event)

theorem yieldFailed (h : Alike said told a b) (event : HeadsetEvent) :
    Alike said told (a.yieldFailed event) (b.yieldFailed event) := by
  rw [Switch.yieldFailed, Switch.yieldFailed]
  split
  · have hWritten := h.rehost
      (Host.shown_write a.host (.warn "Falling back from Bluetooth headset"
        [("device", event.device.text)]))
      (Host.shown_write b.host (.warn "Falling back from Bluetooth headset"
        [("device", event.device.text)]))
    exact { hWritten with selector := congrArg (·.unpin event.device) h.selector }
  · exact h

theorem reopenDropped (h : Alike said told a b) (event : HeadsetEvent) :
    Alike said told (a.reopenDropped event) (b.reopenDropped event) := by
  have hSame : (event.change = .audioDisconnected ∧ a.tracker.listening = true ∧
      a.tracker.link = .idle ∧ a.route.routed = some event.device) ↔
        event.change = .audioDisconnected ∧ b.tracker.listening = true ∧
          b.tracker.link = .idle ∧ b.route.routed = some event.device := by
    rw [h.tracker, h.routed]
  rw [Switch.reopenDropped, Switch.reopenDropped, if_congr hSame rfl rfl]
  split
  · rename_i hDropped
    have hReleased : Alike said told { a with route := a.route.release event.device }
        { b with route := b.route.release event.device } := by
      refine { h with route := ?_ }
      rw [Route.release, Route.release, h.routed, if_pos hDropped.2.2.2, if_pos hDropped.2.2.2]
      exact congrArg (fun route : Route => { route with routed := none }) h.route
    exact hReleased.rehost (Host.shown_write _ _) (Host.shown_write _ _)
  · exact h

theorem applyBluetooth (h : Alike said told a b) (event : BluetoothEvent) :
    Alike said told (a.applyBluetooth event).2 (b.applyBluetooth event).2 := by
  rw [Switch.applyBluetooth, Switch.applyBluetooth]
  simp only [h.tracker]
  split
  · exact h
  cases b.tracker.report? event with
  | none => exact h
  | some report =>
    have hHeard : Alike said told
        { a with tracker := b.tracker.apply event } { b with tracker := b.tracker.apply event } :=
      { h with tracker := rfl }
    have hTold := hHeard.rehost (Host.shown_writeAll a.host (b.tracker.remarks event))
      (Host.shown_writeAll b.host (b.tracker.remarks event))
    exact ((hTold.notifyHeadset report).yieldFailed report).reopenDropped report

theorem applyCallback (h : Alike said told a b) (report : Report) :
    Alike said told (a.applyCallback ⟨a.session, report⟩).2
      (b.applyCallback ⟨b.session, report⟩).2 := by
  rw [Switch.applyCallback, Switch.applyCallback]
  simp only [h.phase, ne_eq, not_true_eq_false, false_or]
  split
  · exact h.rehost (Host.shown_write _ _) (Host.shown_write _ _)
  · cases report with
    | bluetooth event => exact h.applyBluetooth event
    | wired event =>
      simp only [applyWired, h.wired]
      have hHeard : Alike said told
          { a with wired := b.wired.apply event } { b with wired := b.wired.apply event } :=
        { h with wired := rfl }
      exact hHeard.rehost (Host.shown_writeAll _ _) (Host.shown_writeAll _ _)

theorem enter (h : Alike said told a b) (listener : Option Nat)
    (hHost : a.host.queue = [] ∧ b.host.queue = [])
    (hReceivers : a.host.registrations = (none, none, none) ∧
      b.host.registrations = (none, none, none)) :
    Alike said told (a.enter listener) (b.enter listener) := by
  have hEntered : ∀ switch : Switch σ, switch.host.queue = [] →
      switch.host.registrations = (none, none, none) →
      ∃ host : Host σ, host.shown = switch.host.shown ∧ host.queue = [] ∧
        host.registrations = (none, none, none) ∧ switch.enter listener = { switch with
          phase := .started
          session := switch.session + 1
          listeners := { switch.listeners with
            device := if listener.isSome then listener else switch.listeners.device }
          host } := by
    intro switch hQueue hNobody
    refine ⟨switch.host.write (.info "Starting audio switch" [("version", version)]),
      Host.shown_write _ _, ?_, ?_, ?_⟩
    · simpa using hQueue
    · simpa using hNobody
    · rw [Switch.enter]
      cases listener <;> rfl
  obtain ⟨first, hFirst, haQueue, haNobody, haEq⟩ := hEntered a hHost.1 hReceivers.1
  obtain ⟨last, hLast, hbQueue, hbNobody, hbEq⟩ := hEntered b hHost.2 hReceivers.2
  have hResembles := h.host.congr hFirst hLast
  simp only [Host.registrations, Prod.mk.injEq] at haNobody hbNobody
  rw [haEq, hbEq]
  refine { h with phase := rfl, device := ?_, host := ?_ }
  · exact congrArg (fun device => if listener.isSome then listener else device) h.device
  · exact { hResembles with
      bluetooth := ⟨false, haNobody.1, hbNobody.1⟩
      wired := ⟨false, haNobody.2.1, hbNobody.2.1⟩
      waiting := ⟨[], haQueue, hbQueue⟩ }

theorem notifyDevices (h : Alike said told a b) :
    Alike said told a.notifyDevices b.notifyDevices := by
  refine { h with host := ?_ }
  simp only [Switch.notifyDevices]
  rw [h.selector]
  exact h.host.devicesChanged h.device _ _

variable [Platform σ]

theorem recompute (h : Alike said told a b) (rejected : List Device) :
    Alike said told (a.recompute rejected) (b.recompute rejected) := by
  have hCandidates : a.candidates = b.candidates := by
    simp only [Switch.candidates, h.tracker, h.wired, h.host.platform]
  have hExcluded : a.excludes rejected = b.excludes rejected := by
    funext device
    simp only [Switch.excludes, h.tracker]
  have hSelected : Alike said told
      { a with selector := a.selector.recompute a.candidates (a.excludes rejected) }
      { b with selector := b.selector.recompute b.candidates (b.excludes rejected) } := by
    refine { h with selector := ?_ }
    rw [hCandidates, hExcluded, h.selector]
  exact hSelected.rehost (Host.shown_writeAll _ _) (Host.shown_writeAll _ _)

theorem absorb (h : Alike said told a b) : Alike said told a.absorb b.absorb := by
  obtain ⟨reports, haQueue, hbQueue⟩ := h.host.waiting
  have hTaken : Alike said told { a with host := { a.host with queue := [] } }
      { b with host := { b.host with queue := [] } } :=
    { h with host := { h.host with waiting := ⟨[], rfl, rfl⟩ } }
  have hSame : a.session = ({ a with host := { a.host with queue := [] } } : Switch σ).session ∧
      b.session = ({ b with host := { b.host with queue := [] } } : Switch σ).session := ⟨rfl, rfl⟩
  rw [Switch.absorb, Switch.absorb, haQueue, hbQueue]
  generalize ({ a with host := { a.host with queue := [] } } : Switch σ) = here at *
  generalize ({ b with host := { b.host with queue := [] } } : Switch σ) = there at *
  obtain ⟨haSession, hbSession⟩ := hSame
  rw [haSession, hbSession]
  clear haQueue hbQueue haSession hbSession h
  induction reports generalizing here there with
  | nil => exact hTaken
  | cons report reports ih =>
    have hNext := ih _ _ (hTaken.applyCallback report)
    rwa [session_applyCallback, session_applyCallback] at hNext

theorem startBluetooth (h : Alike said told a b) :
    Alike said told a.startBluetooth b.startBluetooth := by
  have hBegun := h.host.startPermitted b.tracker
  rw [Switch.startBluetooth, Switch.startBluetooth, h.tracker]
  generalize b.tracker.startPermitted a.session a.host = first at *
  generalize b.tracker.startPermitted b.session b.host = last at *
  obtain ⟨result, tracker, host⟩ := first
  obtain ⟨result', tracker', host'⟩ := last
  obtain ⟨rfl, rfl, hHost⟩ := hBegun
  have hFollowed : Alike said told { a with tracker, host } { b with tracker, host := host' } :=
    { h with tracker := rfl, host := hHost }
  cases result with
  | ok => exact hFollowed
  | error error => exact hFollowed.rehost (Host.shown_write _ _) (Host.shown_write _ _)

theorem startWired (h : Alike said told a b) : Alike said told a.startWired b.startWired := by
  have hBegun := h.host.startWired b.wired
  rw [Switch.startWired, Switch.startWired, h.wired]
  generalize b.wired.start a.session a.host = first at *
  generalize b.wired.start b.session b.host = last at *
  obtain ⟨result, wired, host⟩ := first
  obtain ⟨result', wired', host'⟩ := last
  obtain ⟨rfl, rfl, hHost⟩ := hBegun
  have hFollowed : Alike said told { a with wired, host } { b with wired, host := host' } :=
    { h with wired := rfl, host := hHost }
  cases result with
  | ok => exact hFollowed
  | error error => exact hFollowed.rehost (Host.shown_write _ _) (Host.shown_write _ _)

theorem start {order : PreferredOrder} (h : Alike said told a b) (ha : Consistent order a)
    (hb : Consistent order b) (hStopped : a.phase = .stopped)
    (hQueue : a.host.queue = [] ∧ b.host.queue = [])
    (hReceivers : a.host.registrations = (none, none, none) ∧
      b.host.registrations = (none, none, none)) (listener : Option Nat) (now : Nat) :
    Alike said told (a.start listener now) (b.start listener now) := by
  have hSilent : ∀ switch : Switch σ, Consistent order switch → switch.phase = .stopped →
      (switch.start listener now) =
        ((switch.enter listener).startBluetooth.startWired.absorb.recompute []).notifyDevices := by
    intro switch hConsistent hPhase
    obtain ⟨hBegun, _, hStarted⟩ := hConsistent.begin hPhase listener
    have hRouting : ((switch.enter listener).startBluetooth.startWired.absorb.recompute
        []).route.isRouting = false :=
      hBegun.silent_of_phase (by rw [hStarted]; decide)
    rw [Switch.start, if_neg (not_not.mpr hPhase)]
    simp only [applyRoute_of_silent hRouting now]
  rw [hSilent a ha hStopped, hSilent b hb (h.phase ▸ hStopped)]
  have hEntered := h.enter listener hQueue hReceivers
  exact ((hEntered.startBluetooth.startWired.absorb).recompute []).notifyDevices

end Alike

variable [Platform σ] {config : SwitchConfig} {switch : Switch σ}

/-- The end of a session forgets what waits, the jack and the listener to devices. -/
theorem stop_frame (hRunning : switch.phase ≠ .stopped) :
    let stopped := switch.stop
    stopped.phase = .stopped ∧ stopped.wired = .idle ∧ stopped.listeners.device = none ∧
      stopped.host.queue = [] := by
  rw [Switch.stop, if_neg hRunning]
  exact ⟨rfl, rfl, rfl, rfl⟩

/-- A stopped switch is like one just made for the same platform. -/
theorem alike_stop (hConsistent : Consistent config.order switch) (hTidy : Tidy config switch)
    (hRunning : switch.phase ≠ .stopped) :
    Alike switch.stop.host.commands (switch.stop.host.notices.filter Notice.isDevices) switch.stop
      (create config switch.stop.host.platform) := by
  have hFresh := Host.shown_writeAll (Host.ofPlatform switch.stop.host.platform config.logging)
    [.debug "Creating audio switch" [("order", config.order.text),
      ("sco_timeout_ms", toString config.linkTimeout)], Selector.creationLine config.order]
  obtain ⟨hPhase, hWired, hDevice, hQueue⟩ := stop_frame hRunning
  have hAfter := hConsistent.stop
  have hTidied := hTidy.stop hConsistent.toSteady
  generalize switch.stop = stopped at *
  obtain ⟨hDeaf, hSelector⟩ := hAfter.stopped hPhase
  have hIdle := hAfter.activated_of_stopped hPhase
  have hUnheld := hAfter.focusHeld_of_stopped hPhase
  have hQuiet := hAfter.quiet (by rw [Route.isRouting, hIdle]; rfl)
  refine ⟨hPhase, ?_, hWired, ?_, hSelector, hDevice, ?_⟩
  · rw [hAfter.sound.eq_idle hDeaf, hTidied.timeout]
    rfl
  · have hSaved := hTidied.saved hIdle
    have hManages := hTidied.managesAudio
    simp [create, Route.idle, hManages, hSaved, hIdle, hUnheld, hQuiet]
  · have hNobody := hTidied.registrations_of_stopped hAfter hPhase
    simp only [Host.registrations, Prod.mk.injEq] at hNobody
    have hBlank : Host.Resembles stopped.host.commands
        (stopped.host.notices.filter Notice.isDevices) stopped.session 0 stopped.host
        (Host.ofPlatform stopped.host.platform config.logging) :=
      ⟨rfl, ⟨false, hNobody.1, rfl⟩, ⟨false, hNobody.2.1, rfl⟩, hNobody.2.2,
        ⟨[], hQueue, rfl⟩, (List.append_nil _).symm, (List.append_nil _).symm⟩
    exact hBlank.congr rfl hFresh

theorem tidy_meetAll (config : SwitchConfig) (handset : Handset) (incidents : List Incident) :
    Tidy config ((create config handset).meetAll incidents) := by
  let kept (switch : Switch Handset) : Prop := Consistent config.order switch ∧ Tidy config switch
  have hBeat : ∀ (switch : Switch Handset) beat, kept switch → kept (switch.beat beat) :=
    fun _ beat h => ⟨h.1.beat beat, h.2.beat h.1 beat⟩
  have hReact : ∀ (switch : Switch Handset) action, kept switch → kept (switch.react action) := by
    intro switch action h
    exact ⟨h.1.congr rfl rfl rfl rfl rfl,
      h.2.congr id rfl rfl rfl rfl ⟨_, _, rfl⟩ (Host.registrations_react switch.host action)⟩
  have hReceive : ∀ (switch : Switch Handset) callback, kept switch →
      kept (switch.receive callback) := by
    intro switch callback h
    exact ⟨h.1.congr rfl rfl rfl rfl rfl, h.2.congr id rfl rfl rfl rfl ⟨_, _, rfl⟩ rfl⟩
  have hBegin : kept (create config handset) :=
    ⟨consistent_create config handset, tidy_create config handset⟩
  exact (meetAll_induction hBeat hReact hReceive hBegin incidents).2

/-- However a session went, its end leaves the switch like a new one on the same platform: nothing
waits, nobody is registered, no focus is held, and what the next session says to the platform and
tells of devices is what a first one would. -/
theorem stop_resets (config : SwitchConfig) (incidents : List Incident)
    (hRunning : ((create config Handset.fresh).meetAll incidents).phase ≠ .stopped) :
    let stopped := ((create config Handset.fresh).meetAll incidents).stop
    let fresh := create config stopped.host.platform
    let said := stopped.host.commands
    let told := stopped.host.notices.filter Notice.isDevices
    Alike said told stopped fresh ∧ stopped.host.queue = [] ∧
      stopped.host.registrations = (none, none, none) ∧
      stopped.host.platform.focusHeld = false ∧
      ∀ listener now, Alike said told (stopped.start listener now) (fresh.start listener now) := by
  intro stopped fresh said told
  have hConsistent := consistent_meetAll config Handset.fresh incidents
  have hAlike : Alike said told stopped fresh :=
    alike_stop hConsistent (tidy_meetAll config Handset.fresh incidents) hRunning
  obtain ⟨hPhase, _, _, hQueue⟩ := stop_frame hRunning
  have hStopped : Consistent config.order stopped := hConsistent.stop
  have hTidied : Tidy config stopped :=
    (tidy_meetAll config Handset.fresh incidents).stop hConsistent.toSteady
  have hNobody : stopped.host.registrations = (none, none, none) :=
    hTidied.registrations_of_stopped hStopped hPhase
  have hFresh := consistent_create config stopped.host.platform
  have hNew := (tidy_create config stopped.host.platform).registrations_of_stopped hFresh rfl
  refine ⟨hAlike, hQueue, hNobody, ?_, ?_⟩
  · have hFocus : stopped.SharesFocus :=
      (sharesFocus_meetAll config incidents).track (tracksFocus_stop _)
    exact hFocus.trans (hStopped.focusHeld_of_stopped hPhase)
  · intro listener now
    have hUnasked : fresh.host.queue = [] := by
      have hBlank := congrArg (fun shown => shown.2.2.1) (Host.shown_writeAll
        (Host.ofPlatform stopped.host.platform config.logging)
        [.debug "Creating audio switch" [("order", config.order.text),
          ("sco_timeout_ms", toString config.linkTimeout)], Selector.creationLine config.order])
      exact hBlank
    exact hAlike.start hStopped hFresh hPhase ⟨hQueue, hUnasked⟩ ⟨hNobody, hNew⟩ listener now

theorem stop_resets_call :
    let config : SwitchConfig := ⟨.usual, usualLinkTimeout, true, false⟩
    let incidents : List Incident := [.move (.operation (.start (some 1)) 0),
      .move (.operation .activate 0), .move (.handset (.connect ⟨"Buds", "AA"⟩)),
      .move (.handset (.plug "Jack")), .move (.operation .pump 0),
      .callback ⟨0, .bluetooth (.disconnected "AA")⟩]
    let running := (create config Handset.fresh).meetAll incidents
    running.route.focusHeld = true ∧ running.tracker.link = .active "AA" ∧
      running.host.queue ≠ [] ∧ running.stop.host.queue = [] ∧
      running.stop.host.platform.focusHeld = false := by
  intro config incidents
  simp only
  have hFound : ((create config Handset.fresh).meetAll incidents).route.focusHeld = true ∧
      ((create config Handset.fresh).meetAll incidents).tracker.link = .active "AA" ∧
      ((create config Handset.fresh).meetAll incidents).host.queue ≠ [] ∧
      ((create config Handset.fresh).meetAll incidents).phase ≠ .stopped := by decide
  obtain ⟨hHeld, hOpen, hWaiting, hRunning⟩ := hFound
  obtain ⟨_, hQueue, _, hFocus, _⟩ := stop_resets config incidents hRunning
  exact ⟨hHeld, hOpen, hWaiting, hQueue, hFocus⟩

end Switch

end CallAudio
