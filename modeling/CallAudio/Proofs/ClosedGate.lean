import CallAudio.Proofs.Dealings
import CallAudio.Proofs.Veils

/-! # Behind a closed gate

As long as the gate to the headsets is shut whenever the switch would begin to listen for them, there
are no headsets for it: it neither lists nor selects one, asks for none and speaks of none. What the
headsets of the handset do meanwhile is not seen at all.
-/

namespace CallAudio

def Command.isBluetooth : Command → Bool
  | startListening => true
  | stopListening => true
  | enableLink _ => true
  | disableLink => true
  | _ => false

def Notice.isHeadset : Notice → Bool
  | headset .. => true
  | _ => false

/-! ## Nothing about headsets -/

structure Host.Barren {σ : Type} (host : Host σ) : Prop where
  receiver : host.bluetoothReceiver = none
  notices : ∀ notice ∈ host.notices, notice.isHeadset = false
  commands : ∀ command ∈ host.commands, command.isBluetooth = false

namespace Host.Barren

variable {σ : Type} {host : Host σ}

theorem write (h : host.Barren) (line : LogLine) : (host.write line).Barren := by
  rw [Host.write]
  split
  · exact ⟨h.receiver, h.notices, h.commands⟩
  · exact h

theorem writeAll (h : host.Barren) (lines : List LogLine) : (host.writeAll lines).Barren := by
  induction lines generalizing host with
  | nil => exact h
  | cons line lines ih => exact ih (h.write line)

theorem notify (h : host.Barren) {notice : Notice} (hOther : notice.isHeadset = false) :
    (host.notify notice).Barren := by
  refine ⟨h.receiver, fun later hMem => ?_, h.commands⟩
  rcases List.mem_append.mp hMem with hOld | hNew
  · exact h.notices later hOld
  · rwa [List.mem_singleton.mp hNew]

theorem reportBluetooth (h : host.Barren) (event : BluetoothEvent) :
    host.reportBluetooth event = host := by
  rw [Host.reportBluetooth, h.receiver]

theorem reportWired (h : host.Barren) (event : WiredEvent) : (host.reportWired event).Barren := by
  obtain ⟨queue, hEq⟩ := reportWired_eq host event
  rw [hEq]
  exact ⟨h.receiver, h.notices, h.commands⟩

theorem devicesChanged (h : host.Barren) (listeners : Listeners) (available : List Device)
    (selected : Option Device) : (listeners.devicesChanged available selected host).Barren := by
  rw [Listeners.devicesChanged]
  split
  · exact (h.write _).notify rfl
  · exact h.write _

variable [Platform σ]

theorem issue (h : host.Barren) {command : Command} (hOther : command.isBluetooth = false) :
    (host.issue command).Barren := by
  refine ⟨h.receiver, h.notices, fun later hMem => ?_⟩
  rcases List.mem_append.mp hMem with hOld | hNew
  · exact h.commands later hOld
  · rwa [List.mem_singleton.mp hNew]

theorem startWired (h : host.Barren) (wired : WiredTracker) (session : Nat) :
    (wired.start session host).2.2.Barren := by
  have hIssued : (host.issue .registerWired).Barren := h.issue rfl
  rw [WiredTracker.start, Host.registerWired]
  split
  · exact h
  cases Platform.registerRefusal? host.platform with
  | some reason => exact h
  | none =>
    refine write ?_ _
    exact ⟨hIssued.receiver, hIssued.notices, hIssued.commands⟩

theorem stopWired (h : host.Barren) (wired : WiredTracker) : (wired.stop host).2.Barren := by
  have hIssued : (host.issue .unregisterWired).Barren := h.issue rfl
  rw [WiredTracker.stop]
  split
  · exact ⟨hIssued.receiver, hIssued.notices, hIssued.commands⟩
  · exact h

theorem vacate (h : host.Barren) (route : Route) (next : Option Device) :
    route.vacate next none host = (none, (route.vacate next none host).2) ∧
      (route.vacate next none host).2.Barren := by
  rw [Route.vacate]
  split
  · rename_i old _
    have hWritten := h.write (.debug "Disabling audio device" [("device", old.text)])
    cases old with
    | bluetoothHeadset headset =>
      simp only [Route.disable, Route.closeAny]
      split <;> exact ⟨rfl, hWritten⟩
    | speakerphone => exact ⟨rfl, hWritten.issue rfl⟩
    | _ => exact ⟨rfl, hWritten⟩
  · exact ⟨rfl, h⟩

/-- Without a tracker only the loudspeaker is turned on and off, and any device but a headset can be
routed. -/
theorem routeTo (h : host.Barren) (route : Route) {device : Option Device}
    (hOther : ∀ chosen, device = some chosen → chosen.isBluetooth = false) (now : Nat) :
    (route.routeTo device none now host).result = .ok () ∧
      (route.routeTo device none now host).host.Barren := by
  obtain ⟨hNone, hVacated⟩ := h.vacate route device
  rw [Route.routeTo, hNone]
  split
  · exact ⟨rfl, h⟩
  cases device with
  | none => exact ⟨rfl, hVacated⟩
  | some device =>
    have hChosen := hOther device rfl
    generalize (route.vacate (some device) none host).2 = vacated at *
    have hWritten := hVacated.write (.info "Routing audio" [("device", device.text)])
    cases device with
    | bluetoothHeadset headset => cases hChosen
    | speakerphone => exact ⟨rfl, hWritten.issue rfl⟩
    | _ => exact ⟨rfl, hWritten⟩

theorem activate (h : host.Barren) (route : Route) : (route.activate host).2.2.Barren := by
  have hReady : (route.prepare host).2.Barren := by
    rw [Route.prepare]
    split
    · exact h
    split
    · exact h
    · exact (((h.write _).issue rfl).issue rfl).issue rfl
  rw [Route.activate]
  generalize route.prepare host = ready at *
  obtain ⟨route, host⟩ := ready
  have hAsked : (host.issue .requestFocus).Barren := hReady.issue rfl
  simp only [Route.takeFocus, Host.requestFocus]
  split
  · exact hReady
  cases Platform.grantsFocus host.platform with
  | true =>
    refine write ?_ _
    exact ⟨hAsked.receiver, hAsked.notices, hAsked.commands⟩
  | false => exact hAsked.write _

theorem deactivate (h : host.Barren) (route : Route) :
    (route.deactivate none host).2.1 = none ∧ (route.deactivate none host).2.2.Barren := by
  have hSilenced : (route.silence none host).1 = none ∧ (route.silence none host).2.Barren := by
    rw [Route.silence]
    split
    · exact ⟨rfl, h⟩
    · exact ⟨rfl, h.issue rfl⟩
    · exact ⟨rfl, h⟩
  have hRestored : ∀ host : Host σ, host.Barren → (route.restore host).Barren := by
    intro host h
    rw [Route.restore]
    split
    · exact (((h.write _).issue rfl).issue rfl).issue rfl
    · exact h
  rw [Route.deactivate]
  split
  · exact ⟨rfl, h⟩
  generalize route.silence none host = silenced at *
  obtain ⟨tracker, host⟩ := silenced
  refine ⟨hSilenced.1, hRestored _ ?_⟩
  split
  · have hGiven : (host.issue .abandonFocus).Barren := hSilenced.2.issue rfl
    exact ⟨hGiven.receiver, hGiven.notices, hGiven.commands⟩
  · exact hSilenced.2

end Host.Barren

theorem mem_of_bestDevice? {excluded : Device → Bool} {devices : List Device} {device : Device}
    (h : bestDevice? excluded devices = some device) : device ∈ devices := by
  rcases Option.or_eq_some_iff.mp h with hFound | ⟨_, hHead⟩
  · exact List.mem_of_find?_eq_some hFound
  · exact List.mem_of_head? hHead

theorem Selector.mem_of_recompute {selector : Selector} {candidates : List Device}
    {excluded : Device → Bool} {device : Device}
    (h : (selector.recompute candidates excluded).selected = some device) :
    device ∈ candidates := by
  suffices hArranged : device ∈ selector.order.arrange candidates from
    PreferredOrder.mem_arrange.mp hArranged
  cases hPinned : (selector.recompute candidates excluded).pinned with
  | true =>
    obtain ⟨chosen, hMem, hChosen, _⟩ := recompute_pinned hPinned
    cases hChosen.symm.trans h
    exact hMem
  | false => exact mem_of_bestDevice? ((recompute_unpinned hPinned).symm.trans h)

namespace Switch

structure Barren {σ : Type} (switch : Switch σ) : Prop where
  deaf : switch.tracker.listening = false
  available : ∀ device ∈ switch.selector.available, device.isBluetooth = false
  selected : ∀ device, switch.selector.selected = some device → device.isBluetooth = false
  host : switch.host.Barren

section

variable {σ : Type} {switch : Switch σ}

theorem Barren.rehost (h : switch.Barren) {host : Host σ} (hHost : host.Barren) :
    Barren { switch with host } := ⟨h.deaf, h.available, h.selected, hHost⟩

theorem Barren.listening? (h : switch.Barren) : switch.tracker.listening? = none := by
  simp [Tracker.listening?, h.deaf]

theorem Barren.write (h : switch.Barren) (line : LogLine) : (switch.write line).Barren :=
  h.rehost (h.host.write line)

theorem Barren.notifyDevices (h : switch.Barren) : switch.notifyDevices.Barren :=
  h.rehost (h.host.devicesChanged _ _ _)

theorem Barren.announce (h : switch.Barren) (view : List Device × Option Device) :
    (switch.announce view).Barren := by
  rw [Switch.announce]
  split
  · exact h
  · exact h.notifyDevices

theorem Barren.applyCallback (h : switch.Barren) (callback : Callback) :
    (switch.applyCallback callback).2.Barren := by
  rcases applyCallback_cases switch callback with
    ⟨wired, lines, hEq⟩ | ⟨_, _, _, _, hListening, _⟩
  · rw [hEq]
    exact ⟨h.deaf, h.available, h.selected, h.host.writeAll lines⟩
  · exact absurd (hListening.symm.trans h.deaf) (by decide)

theorem Barren.absorb (h : switch.Barren) : switch.absorb.Barren := by
  have hTaken : Barren { switch with host := { switch.host with queue := [] } } :=
    h.rehost ⟨h.host.receiver, h.host.notices, h.host.commands⟩
  exact absorb_induction (fun _ callback hKept => hKept.applyCallback callback) hTaken

variable [Platform σ]

theorem Barren.recompute (h : switch.Barren) (rejected : List Device) :
    (switch.recompute rejected).Barren := by
  have hCandidates : ∀ device ∈ switch.candidates, device.isBluetooth = false := by
    intro device hMem
    have hNone : switch.tracker.visible = [] := by simp [Tracker.visible, h.deaf]
    rw [candidates, hNone] at hMem
    cases device with
    | bluetoothHeadset headset => simp [WiredTracker.device?] at hMem
    | _ => rfl
  refine ⟨h.deaf, fun device hMem => ?_, fun device hSelected => ?_, h.host.writeAll _⟩
  · have hAvailable : device ∈ switch.selector.order.arrange switch.candidates := by
      rw [← Selector.available_recompute]
      exact hMem
    exact hCandidates device (PreferredOrder.mem_arrange.mp hAvailable)
  · exact hCandidates device (Selector.mem_of_recompute hSelected)

theorem Barren.applyRoute (h : switch.Barren) (now : Nat) : (switch.applyRoute now).Barren := by
  obtain ⟨hResult, hHost⟩ := h.host.routeTo switch.route h.selected now
  rw [← h.listening?] at hResult hHost
  have hListening := (reroutes_routeOnce switch now).steps.headsets.1
  rw [Switch.applyRoute, routeWithin_ok hResult]
  exact ⟨hListening.trans h.deaf, h.available, h.selected, hHost⟩

theorem Barren.refreshSince (h : switch.Barren) (view : List Device × Option Device) (now : Nat) :
    (switch.refreshSince view now).Barren :=
  ((h.recompute []).applyRoute now).announce view

theorem Barren.handle (h : switch.Barren) (callback : Callback) (now : Nat) :
    (switch.handle callback now).Barren := by
  have hApplied := h.applyCallback callback
  cases hChanged : (switch.applyCallback callback).1 with
  | false => rwa [handle_unchanged hChanged]
  | true =>
    rw [handle_changed hChanged]
    exact hApplied.refreshSince _ now

theorem Barren.next (h : switch.Barren) (now : Nat) : ((switch.next? now).getD switch).Barren := by
  rw [next?]
  split
  · exact h
  · rename_i callback rest _
    have hTaken : Barren { switch with host := { switch.host with queue := rest } } :=
      h.rehost ⟨h.host.receiver, h.host.notices, h.host.commands⟩
    exact hTaken.handle callback now

theorem Barren.poll (h : switch.Barren) (now : Nat) : (switch.poll now).Barren := by
  simpa [Switch.poll, h.deaf] using h

theorem Barren.startBluetooth (h : switch.Barren) (hShut : switch.host.gateShut = true) :
    switch.startBluetooth.Barren := by
  have hKept : ∃ error, switch.tracker.startPermitted switch.session switch.host =
      (.error error, switch.tracker, switch.host) := by
    rw [Tracker.startPermitted, Tracker.start]
    split
    · rename_i hPermitted
      have hAdapter : Platform.adapterAvailable switch.host.platform = false := by
        simpa [Host.gateShut, hPermitted] using hShut
      rw [hAdapter, h.deaf]
      exact ⟨_, rfl⟩
    · exact ⟨_, rfl⟩
  obtain ⟨error, hEq⟩ := hKept
  rw [Switch.startBluetooth, hEq]
  exact h.write _

theorem Barren.startWired (h : switch.Barren) : switch.startWired.Barren := by
  have hStarted := h.host.startWired switch.wired switch.session
  rw [Switch.startWired]
  generalize switch.wired.start switch.session switch.host = begun at *
  obtain ⟨result, wired, host⟩ := begun
  have hBegun : Barren { switch with wired, host } := ⟨h.deaf, h.available, h.selected, hStarted⟩
  cases result with
  | ok => exact hBegun
  | error error => exact hBegun.write _

theorem Barren.start (h : switch.Barren) (hShut : switch.host.gateShut = true)
    (listener : Option Nat) (now : Nat) : (switch.start listener now).Barren := by
  rw [Switch.start]
  split
  · exact h.write _
  obtain ⟨_, hTracker, _, hSelector, _, line, hHost⟩ := enter_eq switch listener
  have hEntered : (switch.enter listener).Barren := by
    refine ⟨?_, ?_, ?_, ?_⟩
    · rw [hTracker]
      exact h.deaf
    · rw [hSelector]
      exact h.available
    · rw [hSelector]
      exact h.selected
    · rw [hHost]
      exact h.host.write line
  have hStill : (switch.enter listener).host.gateShut = true := by
    rw [hHost]
    simpa [Host.gateShut] using hShut
  have hBegun := (hEntered.startBluetooth hStill).startWired.absorb
  exact ((hBegun.recompute []).applyRoute now).notifyDevices

theorem Barren.deactivateRoute (h : switch.Barren) : switch.deactivateRoute.Barren := by
  obtain ⟨hNone, hHost⟩ := h.host.deactivate switch.route
  rw [← h.listening?] at hNone hHost
  refine ⟨?_, h.available, h.selected, hHost⟩
  exact (tracker_deactivateRoute_listening switch).trans h.deaf

theorem Barren.stop (h : switch.Barren) : switch.stop.Barren := by
  rw [Switch.stop]
  split
  · exact h
  have hSilenced := (h.write (.info "Stopping audio switch" [])).deactivateRoute
  generalize (switch.write (.info "Stopping audio switch" [])).deactivateRoute = silenced at *
  have hKept : silenced.tracker.stop silenced.host = (silenced.tracker, silenced.host) := by
    simp [Tracker.stop, hSilenced.deaf]
  have hLeft := hSilenced.host.stopWired silenced.wired
  rw [leave, hKept]
  refine ⟨hSilenced.deaf, ?_, ?_, hLeft.receiver, hLeft.notices, hLeft.commands⟩
  · simp [Selector.clear, Selector.empty]
  · simp [Selector.clear, Selector.empty]

theorem Barren.engage (h : switch.Barren) (now : Nat) : (switch.engage now).2.Barren := by
  have hTaken := h.host.activate switch.route
  rw [Switch.engage]
  split
  · exact h
  generalize switch.route.activate switch.host = taken at *
  obtain ⟨result, route, host⟩ := taken
  have hEngaged : Barren { switch with phase := .activated, route, host } :=
    ⟨h.deaf, h.available, h.selected, hTaken⟩
  cases result with
  | error error => exact hEngaged.write _
  | ok => exact (hEngaged.applyRoute now).announce _

theorem Barren.disengage (h : switch.Barren) : switch.disengage.Barren := by
  have hSilenced := h.deactivateRoute
  rw [Switch.disengage]
  split
  · exact h
  · exact ⟨hSilenced.deaf, hSilenced.available, hSilenced.selected, hSilenced.host⟩

theorem Barren.choose (h : switch.Barren) (device : Device) (now : Nat) :
    (switch.choose device now).Barren := by
  rw [Switch.choose]
  split
  · exact h.write _
  split
  · exact h.write _
  rename_i hMem
  have hMem : device ∈ switch.selector.available := not_not.mp hMem
  have hPinned : (switch.pinTo device).Barren := by
    refine ⟨?_, ?_, ?_, h.host⟩
    · rcases switch.tracker.forgive_eq device with hEq | ⟨_, hEq⟩ <;>
        simpa [pinTo, hEq, Tracker.clearFailure] using h.deaf
    · simpa [pinTo, Selector.pin, hMem] using h.available
    · simpa [pinTo, Selector.pin, hMem] using h.available device hMem
  exact hPinned.refreshSince _ now

theorem Barren.unchoose (h : switch.Barren) (now : Nat) : (switch.unchoose now).Barren := by
  rw [Switch.unchoose]
  split
  · exact h
  · have hFreed : Barren { switch with selector := switch.selector.clearPin } :=
      ⟨h.deaf, h.available, h.selected, h.host⟩
    exact hFreed.refreshSince _ now

theorem Barren.resume (h : switch.Barren) (hShut : switch.host.gateShut = true) :
    switch.resume.Barren := by
  rw [Switch.resume]
  split
  · refine (h.write _).startBluetooth ?_
    simpa [Switch.write, Host.gateShut] using hShut
  · exact h

theorem Barren.act (h : switch.Barren) {operation : Operation}
    (hGate : operation.opens = true → switch.host.gateShut = true) (now : Nat) :
    (switch.act operation now).Barren := by
  cases operation with
  | start listener => exact h.start (hGate rfl) listener now
  | stop => exact h.stop
  | activate => exact h.engage now
  | deactivate => exact h.disengage
  | select device => exact h.choose device now
  | clearSelection => exact h.unchoose now
  | hostResumed => exact h.resume (hGate rfl)
  | setLogging on => exact h.rehost ⟨h.host.receiver, h.host.notices, h.host.commands⟩
  | pump | poll | next => exact h
  | setDeviceListener | setHeadsetListener | setFocusListener =>
    exact ⟨h.deaf, h.available, h.selected, h.host⟩

theorem Barren.pumped (h : switch.Barren) (now : Nat) : (switch.pumped now).Barren := by
  have hPump : (switch.perform .pump now).Barren :=
    perform_induction_act (fun _ hKept => hKept.next now) (fun _ hKept => hKept.poll now)
      (fun _ hKept => hKept) h
  exact hPump

theorem Barren.perform (h : switch.Barren) {operation : Operation}
    (hGate : operation.opens = true → switch.host.gateShut = true) (now : Nat) :
    (switch.perform operation now).Barren := by
  cases hOpens : operation.opens with
  | false =>
    refine perform_induction_act (fun _ hKept => hKept.next now) (fun _ hKept => hKept.poll now)
      (fun after hKept => hKept.act (fun hOther => ?_) now) h
    exact absurd (hOther.symm.trans hOpens) (by decide)
  | true =>
    have hShut := hGate hOpens
    cases operation with
    | start listener => exact h.start hShut listener now
    | hostResumed =>
      rw [Switch.perform, hostResumed]
      split
      · exact (h.resume hShut).pumped now
      · exact h
    | _ => cases hOpens

end

end Switch

/-! ## What the headsets of the handset do -/

theorem Host.Barren.adjust {host : Host Handset} (h : host.Barren) (change : Handset → Handset) :
    (host.adjust change).Barren := ⟨h.receiver, h.notices, h.commands⟩

def Handset.withoutHeadsets (handset : Handset) : Handset :=
  { handset with confirmsLinks := false, refusesLinks := false, connected := [], listenRefusal := none }

def Veil.headsets : Veil Handset where
  hide host := host.adjust Handset.withoutHeadsets
  adapterAvailable _ := rfl
  bluetoothPermitted _ := rfl
  registerRefusal? _ := rfl
  pluggedHeadset? _ := rfl
  hasEarpiece _ := rfl
  grantsFocus _ := rfl
  audioState _ := rfl
  bluetoothReceiver _ := rfl
  write host line := by
    cases hLogging : host.logging <;> simp [Host.write, Host.adjust, hLogging]
  notify _ _ := rfl
  deliver _ _ := rfl
  issue host command := by cases command <;> rfl
  hear _ _ := rfl
  watch _ _ := rfl
  attend _ _ := rfl

theorem Veil.showsQueue_headsets : Veil.headsets.ShowsQueue := ⟨fun _ => rfl, fun _ _ => rfl⟩

/-- Whether something happens to headsets only: to those that are connected, to their links, or to
what the handset would do with them. -/
def HandsetAction.concernsHeadsets : HandsetAction → Bool
  | connect _ => true
  | disconnect _ => true
  | reportBluetooth _ => true
  | setConfirmsLinks _ => true
  | setRefusesLinks _ => true
  | setListenRefusal _ => true
  | _ => false

def HandsetMove.concernsHeadsets : HandsetMove → Bool
  | handset action => action.concernsHeadsets
  | operation .. => false

def HandsetMove.opens : HandsetMove → Bool
  | operation asked _ => asked.opens
  | handset _ => false

namespace Switch

variable {switch : Switch Handset}

def StaysShut (switch : Switch Handset) : List HandsetMove → Prop
  | [] => True
  | move :: moves =>
    (move.opens = true → switch.host.gateShut = true) ∧
      (switch.handsetMove move).StaysShut moves

/-- What is seen of a run behind the veil, after each move but for those that concern headsets. -/
def glimpses (switch : Switch Handset) : List HandsetMove → List (Switch Handset)
  | [] => []
  | move :: moves =>
    let rest := (switch.handsetMove move).glimpses moves
    if move.concernsHeadsets then rest else (switch.handsetMove move).veiled .headsets :: rest

theorem Barren.react (h : switch.Barren) (action : HandsetAction) : (switch.react action).Barren := by
  refine h.rehost ?_
  cases action with
  | connect headset =>
    rw [Host.react, Host.connect, (h.host.adjust _).reportBluetooth]
    exact h.host.adjust _
  | disconnect address =>
    rw [Host.react, Host.disconnect, (h.host.adjust _).reportBluetooth]
    exact h.host.adjust _
  | reportBluetooth event =>
    rw [Host.react, h.host.reportBluetooth]
    exact h.host
  | plug name => exact (h.host.adjust _).reportWired _
  | unplug => exact (h.host.adjust _).reportWired _
  | reportWired event => exact h.host.reportWired event
  | changeFocus change =>
    rw [Host.react, Host.changeFocus]
    split
    · exact h.host.notify rfl
    · exact h.host
  | _ => exact ⟨h.host.receiver, h.host.notices, h.host.commands⟩

theorem Barren.handsetMove (h : switch.Barren) {move : HandsetMove}
    (hGate : move.opens = true → switch.host.gateShut = true) :
    (switch.handsetMove move).Barren := by
  cases move with
  | operation operation now => exact h.perform hGate now
  | handset action => exact h.react action

theorem Barren.handsetRun (h : switch.Barren) {moves : List HandsetMove}
    (hShut : switch.StaysShut moves) : (switch.handsetRun moves).Barren := by
  induction moves generalizing switch with
  | nil => exact h
  | cons move moves ih => exact ih (h.handsetMove hShut.1) hShut.2

theorem Barren.veiled_concerning (h : switch.Barren) {move : HandsetMove}
    (hHeadsets : move.concernsHeadsets = true) :
    (switch.handsetMove move).veiled .headsets = switch.veiled .headsets := by
  cases move with
  | operation => cases hHeadsets
  | handset action =>
    cases action with
    | connect headset =>
      rw [Switch.handsetMove, Switch.react, Host.react, Host.connect,
        (h.host.adjust _).reportBluetooth]
      rfl
    | disconnect address =>
      rw [Switch.handsetMove, Switch.react, Host.react, Host.disconnect,
        (h.host.adjust _).reportBluetooth]
      rfl
    | reportBluetooth event =>
      rw [Switch.handsetMove, Switch.react, Host.react, h.host.reportBluetooth]
    | setConfirmsLinks | setRefusesLinks | setListenRefusal => rfl
    | _ => cases hHeadsets

theorem Barren.handsetMove_veiled (h : switch.Barren) {move : HandsetMove}
    (hOther : move.concernsHeadsets = false)
    (hGate : move.opens = true → switch.host.gateShut = true) :
    (switch.veiled .headsets).handsetMove move = (switch.handsetMove move).veiled .headsets := by
  cases move with
  | operation operation now =>
    refine perform_veiled switch Veil.showsQueue_headsets (.inr h.deaf) (fun hOpens => ?_)
      (fun _ _ => rfl) now
    exact .inr ⟨h.deaf, hGate hOpens⟩
  | handset action =>
    cases action with
    | plug name =>
      cases hReceiver : switch.host.wiredReceiver <;>
        simp [Switch.handsetMove, Switch.react, Host.react, Host.plug, veiled, Veil.headsets,
          Host.adjust, Host.reportWired, Host.deliver, hReceiver, Handset.withoutHeadsets]
    | unplug =>
      cases hReceiver : switch.host.wiredReceiver <;>
        simp [Switch.handsetMove, Switch.react, Host.react, Host.unplug, veiled, Veil.headsets,
          Host.adjust, Host.reportWired, Host.deliver, hReceiver, Handset.withoutHeadsets]
    | reportWired event =>
      cases hReceiver : switch.host.wiredReceiver <;>
        simp [Switch.handsetMove, Switch.react, Host.react, veiled, Veil.headsets,
          Host.adjust, Host.reportWired, Host.deliver, hReceiver]
    | changeFocus change =>
      cases hListener : switch.host.focusListener <;>
        simp [Switch.handsetMove, Switch.react, Host.react, veiled, Veil.headsets,
          Host.adjust, Host.changeFocus, Host.notify, hListener]
    | setAudio | setEarpiece | setAdapter | setPermission | setGrantsFocus
      | setRegisterRefusal => rfl
    | _ => cases hOther

/-- Behind the veil a run goes on without what happens to headsets. -/
theorem Barren.handsetRun_veiled (h : switch.Barren) {moves : List HandsetMove}
    (hShut : switch.StaysShut moves) :
    (switch.handsetRun moves).veiled .headsets =
      (switch.veiled .headsets).handsetRun (moves.filter (!·.concernsHeadsets)) := by
  induction moves generalizing switch with
  | nil => rfl
  | cons move moves ih =>
    have hRest := ih (h.handsetMove hShut.1) hShut.2
    cases hHeadsets : move.concernsHeadsets with
    -- Such a move is left out on the other side.
    | true =>
      rw [h.veiled_concerning hHeadsets] at hRest
      simpa [Switch.handsetRun, hHeadsets] using hRest
    | false =>
      rw [← h.handsetMove_veiled hHeadsets hShut.1] at hRest
      simpa [Switch.handsetRun, hHeadsets] using hRest

theorem Barren.glimpses (h : switch.Barren) {moves : List HandsetMove}
    (hShut : switch.StaysShut moves) :
    switch.glimpses moves =
      (switch.veiled .headsets).glimpses (moves.filter (!·.concernsHeadsets)) := by
  induction moves generalizing switch with
  | nil => rfl
  | cons move moves ih =>
    rw [Switch.glimpses, ih (h.handsetMove hShut.1) hShut.2]
    cases hHeadsets : move.concernsHeadsets with
    | true =>
      rw [h.veiled_concerning hHeadsets]
      simp [hHeadsets]
    | false =>
      have hMove := h.handsetMove_veiled hHeadsets hShut.1
      have hTwice : ((switch.handsetMove move).veiled .headsets).veiled .headsets =
          (switch.handsetMove move).veiled .headsets := rfl
      simp [hHeadsets, Switch.glimpses, hMove, hTwice]

theorem barren_create (config : SwitchConfig) (handset : Handset) :
    (create config handset).Barren := by
  have hHost : (Host.ofPlatform handset config.logging).Barren :=
    ⟨rfl, by simp [Host.ofPlatform], by simp [Host.ofPlatform]⟩
  refine ⟨rfl, ?_, ?_, hHost.writeAll _⟩
  · simp [create, Selector.empty]
  · simp [create, Selector.empty]

theorem create_veiled (config : SwitchConfig) (handset : Handset) :
    (create config handset).veiled .headsets = create config handset.withoutHeadsets := by
  rw [veiled, create, ← Host.writeAll_hide]
  rfl

/-- Two runs on handsets that differ only in their headsets, with moves that differ only in what
happens to headsets, go through the same states while the gate is shut whenever one of them may begin
to listen. No headset is ever available, none is spoken of, and no command goes out for one. -/
theorem closed_gate_invisible (config : SwitchConfig) (handset handset' : Handset)
    (moves moves' : List HandsetMove) (hHandsets : handset.withoutHeadsets = handset'.withoutHeadsets)
    (hMoves : moves.filter (!·.concernsHeadsets) = moves'.filter (!·.concernsHeadsets))
    (hShut : (create config handset).StaysShut moves)
    (hShut' : (create config handset').StaysShut moves') :
    let switch := (create config handset).handsetRun moves
    let switch' := (create config handset').handsetRun moves'
    (create config handset).glimpses moves = (create config handset').glimpses moves' ∧
      switch.veiled .headsets = switch'.veiled .headsets ∧
      (∀ device ∈ switch.selector.available, device.isBluetooth = false) ∧
      (∀ notice ∈ switch.host.notices, notice.isHeadset = false) ∧
      ∀ command ∈ switch.host.commands, command.isBluetooth = false := by
  intro switch switch'
  have hBegun := barren_create config handset
  have hBegun' := barren_create config handset'
  have hSame : (create config handset).veiled .headsets =
      (create config handset').veiled .headsets := by
    rw [create_veiled, create_veiled, hHandsets]
  have hBarren : switch.Barren := hBegun.handsetRun hShut
  refine ⟨?_, ?_, hBarren.available, hBarren.host.notices, hBarren.host.commands⟩
  · rw [hBegun.glimpses hShut, hBegun'.glimpses hShut', hSame, hMoves]
  · rw [hBegun.handsetRun_veiled hShut, hBegun'.handsetRun_veiled hShut', hSame, hMoves]

/-- A headset that the handset may not reach comes, and the report of a failed link to another. -/
theorem closed_gate_invisible_denied :
    let config : SwitchConfig := ⟨.usual, usualLinkTimeout, true, false⟩
    let handset : Handset := { Handset.fresh with bluetoothPermitted := false }
    let handset' : Handset := { handset with connected := [⟨"Buds", "AA"⟩], refusesLinks := true }
    let start : HandsetMove := .operation (.start (some 1)) 0
    let plug : HandsetMove := .handset (.plug "Cans")
    let resume : HandsetMove := .operation .hostResumed 0
    let activate : HandsetMove := .operation .activate 0
    let moves : List HandsetMove := [start, plug, resume, activate]
    let moves' : List HandsetMove := [start, .handset (.connect ⟨"Beans", "BB"⟩), plug, resume,
      .handset (.reportBluetooth (.audioFailed "AA")), activate]
    let switch := (create config handset).handsetRun moves
    let switch' := (create config handset').handsetRun moves'
    handset.withoutHeadsets = handset'.withoutHeadsets ∧
      moves.filter (!·.concernsHeadsets) = moves'.filter (!·.concernsHeadsets) ∧
      (create config handset).StaysShut moves ∧ (create config handset').StaysShut moves' ∧
      (create config handset).glimpses moves = (create config handset').glimpses moves' ∧
      ((create config handset).glimpses moves).length = 4 ∧
      switch.selector.selected = some (.wiredHeadset "Cans") ∧ switch.host.notices.length = 2 ∧
      switch'.host.platform.connected = [⟨"Buds", "AA"⟩, ⟨"Beans", "BB"⟩] := by
  intro config handset handset' start plug resume activate moves moves' switch switch'
  have hHandsets : handset.withoutHeadsets = handset'.withoutHeadsets := rfl
  have hMoves : moves.filter (!·.concernsHeadsets) = moves'.filter (!·.concernsHeadsets) := rfl
  have hShut : (create config handset).StaysShut moves :=
    ⟨fun _ => by decide, nofun, fun _ => by decide, nofun, trivial⟩
  have hShut' : (create config handset').StaysShut moves' :=
    ⟨fun _ => by decide, nofun, nofun, fun _ => by decide, nofun, nofun, trivial⟩
  obtain ⟨hGlimpses, _⟩ :=
    closed_gate_invisible config handset handset' moves moves' hHandsets hMoves hShut hShut'
  exact ⟨hHandsets, hMoves, hShut, hShut', hGlimpses, rfl, by decide, by decide, by decide⟩

end Switch

end CallAudio
