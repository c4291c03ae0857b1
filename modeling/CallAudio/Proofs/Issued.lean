import CallAudio.Proofs.LinkSteps
import CallAudio.Proofs.Run

/-! # What the parts of an operation tell the platform

Each part of an operation adds a list of commands to those issued, and the platform carries them
out in this order. Nothing else that a switch does changes the platform.
-/

namespace CallAudio

def Command.isRouting : Command → Bool
  | enableLink _ => true
  | disableLink => true
  | setSpeakerphone _ => true
  | _ => false

def Command.isSetting : Command → Bool
  | setSpeakerphone _ => true
  | setMicrophoneMute _ => true
  | setMode _ => true
  | _ => false

namespace Route

def preparing (route : Route) : List Command :=
  if route.activated || !route.managesAudio then []
  else [.setMode .inCommunication, .setMicrophoneMute false, .setSpeakerphone false]

def silencing (route : Route) (tracker : Option Tracker) : List Command :=
  match route.routed with
  | some (.bluetoothHeadset _) => if tracker.any (·.link ≠ .idle) then [.disableLink] else []
  | some .speakerphone => [.setSpeakerphone false]
  | _ => []

def restoring (route : Route) : List Command :=
  match route.saved with
  | some audio => [.setMode audio.mode, .setSpeakerphone audio.speakerphoneOn,
    .setMicrophoneMute audio.microphoneMuted]
  | none => []

theorem isSetting_of_mem_preparing {route : Route} {command : Command}
    (h : command ∈ route.preparing) : command.isSetting = true := by
  rw [preparing] at h
  split at h
  · cases h
  · simp only [List.mem_cons, List.not_mem_nil, or_false] at h
    rcases h with rfl | rfl | rfl <;> rfl

theorem isSetting_of_mem_restoring {route : Route} {command : Command}
    (h : command ∈ route.restoring) : command.isSetting = true := by
  rw [restoring] at h
  split at h
  · simp only [List.mem_cons, List.not_mem_nil, or_false] at h
    rcases h with rfl | rfl | rfl <;> rfl
  · cases h

theorem isRouting_of_mem_silencing {route : Route} {tracker : Option Tracker} {command : Command}
    (h : command ∈ route.silencing tracker) : command.isRouting = true := by
  rw [silencing] at h
  split at h
  · split at h
    · rw [List.mem_singleton.mp h]
      rfl
    · cases h
  · rw [List.mem_singleton.mp h]
    rfl
  · cases h

end Route

variable {σ : Type} [Platform σ]

/-- The commands in `issued` were issued and carried out, the first one first. -/
structure Issued (issued : List Command) (before after : Host σ) : Prop where
  commands : after.commands = before.commands ++ issued
  platform : after.platform =
    issued.foldl (fun platform command => Platform.carryOut command platform) before.platform

/-- Commands change nothing of the simulated handset but who has focus and the audio settings. -/
theorem Handset.carried (commands : List Command) (handset : Handset) :
    ∃ focusHeld audio, commands.foldl (fun handset command => Platform.carryOut command handset)
      handset = { handset with focusHeld, audio } := by
  have hOnce : ∀ (command : Command) (handset : Handset), ∃ focusHeld audio,
      Platform.carryOut command handset = { handset with focusHeld, audio } := by
    intro command handset
    cases command <;> exact ⟨_, _, rfl⟩
  induction commands generalizing handset with
  | nil => exact ⟨_, _, rfl⟩
  | cons command commands ih =>
    obtain ⟨focusHeld, audio, hLater⟩ := ih (Platform.carryOut command handset)
    obtain ⟨_, _, hFirst⟩ := hOnce command handset
    exact ⟨focusHeld, audio, by rw [List.foldl_cons, hLater, hFirst]⟩

namespace Issued

variable {issued more : List Command} {before middle after : Host σ}

theorem refl (host : Host σ) : Issued [] host host := ⟨(List.append_nil _).symm, rfl⟩

theorem trans (h : Issued issued before middle) (h' : Issued more middle after) :
    Issued (issued ++ more) before after where
  commands := by rw [h'.commands, h.commands, List.append_assoc]
  platform := by rw [h'.platform, h.platform, List.foldl_append]

theorem of_same (hCommands : after.commands = before.commands)
    (hPlatform : after.platform = before.platform) : Issued [] before after :=
  ⟨hCommands.trans (List.append_nil _).symm, hPlatform⟩

theorem cast (h : Issued issued before after) (hSame : issued = more) :
    Issued more before after := hSame ▸ h

theorem write (host : Host σ) (line : LogLine) : Issued [] host (host.write line) := by
  refine of_same ?_ ?_ <;> simp

theorem writeAll (host : Host σ) (lines : List LogLine) : Issued [] host (host.writeAll lines) := by
  induction lines generalizing host with
  | nil => exact .refl host
  | cons line lines ih => exact (write host line).trans (ih (host.write line))

theorem written (h : Issued issued before after) (line : LogLine) :
    Issued issued before (after.write line) :=
  (h.trans (write after line)).cast (List.append_nil issued)

theorem issue (host : Host σ) (command : Command) :
    Issued [command] host (host.issue command) := ⟨rfl, rfl⟩

theorem reportBluetooth (host : Host σ) (event : BluetoothEvent) :
    Issued [] host (host.reportBluetooth event) := by
  rw [Host.reportBluetooth]
  split <;> exact of_same rfl rfl

theorem enableLink (host : Host σ) (address : String) :
    Issued [.enableLink address] host (host.enableLink address).2 := by
  rw [Host.enableLink]
  cases Platform.linkAnswer host.platform address with
  | refused reason => exact issue host _
  | pending => exact issue host _
  | confirmed => exact (issue host _).trans (reportBluetooth _ _)

theorem startListening {host after : Host σ} {session : Nat}
    (h : host.startListening session = .ok after) : Issued [.startListening] host after := by
  rw [Host.startListening] at h
  split at h
  · cases h
  cases h
  have hIssued : Issued [.startListening] host
      { host.issue .startListening with bluetoothReceiver := some session } := ⟨rfl, rfl⟩
  revert hIssued
  generalize ({ host.issue .startListening with bluetoothReceiver := some session } :
    Host σ) = registered
  induction Platform.connectedHeadsets host.platform generalizing registered with
  | nil => exact id
  | cons headset headsets ih =>
    exact fun hIssued => ih _ (hIssued.trans (reportBluetooth registered _))

theorem registerWired {host after : Host σ} {session : Nat}
    (h : host.registerWired session = .ok after) : Issued [.registerWired] host after := by
  rw [Host.registerWired] at h
  split at h
  · cases h
  · cases h
    exact ⟨rfl, rfl⟩

theorem requestFocus (host : Host σ) (listener : Option Nat) :
    Issued [.requestFocus] host (host.requestFocus listener).2 := by
  rw [Host.requestFocus]
  split <;> exact ⟨rfl, rfl⟩

theorem closeLink (tracker : Tracker) (host : Host σ) :
    Issued (if tracker.link = .idle then [] else [.disableLink]) host (tracker.closeLink host).2 := by
  rw [Tracker.closeLink]
  split
  · exact refl host
  · exact (write host _).trans (issue _ _)

theorem abandonFocus (host : Host σ) : Issued [.abandonFocus] host host.abandonFocus := ⟨rfl, rfl⟩

theorem prepare (route : Route) (host : Host σ) :
    Issued route.preparing host (route.prepare host).2 := by
  rw [Route.prepare, Route.preparing]
  cases route.activated with
  | true => exact refl host
  | false =>
    cases route.managesAudio with
    | false => exact refl host
    | true => exact (((write host _).trans (issue _ _)).trans (issue _ _)).trans (issue _ _)

theorem takeFocus (route : Route) (host : Host σ) :
    Issued (if route.focusHeld then [] else [.requestFocus]) host (route.takeFocus host).2.2 := by
  have hAsked := requestFocus host route.focusListener
  rw [Route.takeFocus]
  split
  · exact refl host
  generalize host.requestFocus route.focusListener = asked at *
  obtain ⟨granted, asked⟩ := asked
  cases granted <;> exact hAsked.written _

theorem silence (route : Route) (tracker : Option Tracker) (host : Host σ) :
    Issued (route.silencing tracker) host (route.silence tracker host).2 := by
  rw [Route.silence, Route.silencing]
  cases route.routed with
  | none => exact refl host
  | some device =>
    cases device with
    | bluetoothHeadset headset =>
      cases tracker with
      | none => exact refl host
      | some tracker =>
        refine (closeLink tracker host).cast ?_
        by_cases hIdle : tracker.link = .idle <;> simp [hIdle]
    | speakerphone => exact issue host _
    | earpiece => exact refl host
    | wiredHeadset => exact refl host

theorem restore (route : Route) (host : Host σ) :
    Issued route.restoring host (route.restore host) := by
  rw [Route.restore, Route.restoring]
  cases route.saved with
  | none => exact refl host
  | some audio => exact (((write host _).trans (issue _ _)).trans (issue _ _)).trans (issue _ _)

theorem activate (route : Route) (host : Host σ) :
    Issued (route.preparing ++ if route.focusHeld then [] else [.requestFocus]) host
      (route.activate host).2.2 := by
  have hPrepared := prepare route host
  have hFocus : (route.prepare host).1.focusHeld = route.focusHeld := by
    rw [Route.prepare]
    split
    · rfl
    · split <;> rfl
  rw [← hFocus, Route.activate]
  exact hPrepared.trans (takeFocus _ _)

theorem deactivate (route : Route) (tracker : Option Tracker) (host : Host σ) :
    Issued (if route.activated then route.silencing tracker ++
      (if route.focusHeld then [.abandonFocus] else []) ++ route.restoring else []) host
      (route.deactivate tracker host).2.2 := by
  have hSilenced := silence route tracker host
  rw [Route.deactivate]
  cases route.activated with
  | false => exact refl host
  | true =>
    generalize route.silence tracker host = silenced at *
    refine Issued.trans (hSilenced.trans ?_) (restore route _)
    cases route.focusHeld with
    | true => exact abandonFocus _
    | false => exact refl _

theorem start (tracker : Tracker) (session : Nat) (host : Host σ) :
    let begun := tracker.start session host
    begun.2.1 = tracker ∧ Issued [] host begun.2.2 ∨
      tracker.listening = false ∧ begun.2.1 = { tracker with listening := true } ∧
        Issued [.startListening] host begun.2.2 := by
  rw [Tracker.start]
  split
  · exact .inl ⟨rfl, write host _⟩
  rename_i hDeaf
  split
  · exact .inl ⟨rfl, refl host⟩
  cases hStarted : host.startListening session with
  | error reason => exact .inl ⟨rfl, refl host⟩
  | ok started =>
    exact .inr ⟨by simpa using hDeaf, rfl, (startListening hStarted).written _⟩

theorem startPermitted (tracker : Tracker) (session : Nat) (host : Host σ) :
    let begun := tracker.startPermitted session host
    begun.2.1 = tracker ∧ Issued [] host begun.2.2 ∨
      tracker.listening = false ∧ begun.2.1 = { tracker with listening := true } ∧
        Issued [.startListening] host begun.2.2 := by
  rw [Tracker.startPermitted]
  split
  · exact start tracker session host
  · exact .inl ⟨rfl, refl host⟩

theorem startWired (tracker : WiredTracker) (session : Nat) (host : Host σ) :
    let begun := tracker.start session host
    begun.2.1 = tracker ∧ Issued [] host begun.2.2 ∨
      tracker.registered = false ∧ (∃ headset, begun.2.1 = ⟨true, headset⟩) ∧
        Issued [.registerWired] host begun.2.2 := by
  rw [WiredTracker.start]
  split
  · exact .inl ⟨rfl, refl host⟩
  rename_i hFree
  cases hRegistered : host.registerWired session with
  | error reason => exact .inl ⟨rfl, refl host⟩
  | ok registered =>
    exact .inr ⟨by simpa using hFree, ⟨_, rfl⟩, (registerWired hRegistered).written _⟩

theorem stop (tracker : Tracker) (host : Host σ) :
    Issued (if tracker.listening then
      (if tracker.link = .idle then [] else [.disableLink]) ++ [.stopListening] else []) host
      (tracker.stop host).2 := by
  rw [Tracker.stop]
  cases tracker.listening with
  | false => exact refl host
  | true =>
    have hStopped : ∀ host : Host σ, Issued [.stopListening] host host.stopListening :=
      fun _ => ⟨rfl, rfl⟩
    exact ((closeLink tracker host).trans (hStopped _)).written _

theorem stopWired (tracker : WiredTracker) (host : Host σ) :
    Issued (if tracker.registered then [.unregisterWired] else []) host (tracker.stop host).2 := by
  rw [WiredTracker.stop]
  split
  · exact ⟨rfl, rfl⟩
  · exact refl host

end Issued

theorem LinkStep.issued {before after : Tracker × Host σ} (h : LinkStep before after) :
    ∃ issued, (∀ command ∈ issued, command.isRouting = true) ∧
      Issued issued before.2 after.2 := by
  cases h with
  | write tracker host line => exact ⟨[], by simp, .write host line⟩
  | notify tracker host notice => exact ⟨[], by simp, .of_same rfl rfl⟩
  | speaker tracker host on => exact ⟨_, by simp [Command.isRouting], .issue host _⟩
  | close tracker host => exact ⟨_, by simp [Command.isRouting], .issue host _⟩
  | «open» tracker host address =>
    exact ⟨_, by simp [Command.isRouting], .enableLink host address⟩
  | refuse tracker host address =>
    exact ⟨_, by simp [Command.isRouting], .enableLink host address⟩
  | expire tracker host => exact ⟨_, by simp [Command.isRouting], .issue host _⟩

theorem LinkSteps.issued {before after : Tracker × Host σ} (h : LinkSteps before after) :
    ∃ issued, (∀ command ∈ issued, command.isRouting = true) ∧
      Issued issued before.2 after.2 := by
  induction h with
  | refl => exact ⟨[], by simp, .refl _⟩
  | tail _ hLast ih =>
    obtain ⟨issued, hIssued, hBefore⟩ := ih
    obtain ⟨more, hMore, hAfter⟩ := hLast.issued
    refine ⟨issued ++ more, fun command hMem => ?_, hBefore.trans hAfter⟩
    rcases List.mem_append.mp hMem with hOld | hNew
    · exact hIssued command hOld
    · exact hMore command hNew

namespace Switch

variable (switch : Switch σ)

theorem issued_notifyHeadset (event : HeadsetEvent) :
    Issued [] switch.host (switch.notifyHeadset event).host := by
  rw [notifyHeadset, Listeners.headsetEvent]
  split
  · exact (Issued.write _ _).trans (.of_same rfl rfl)
  · exact .refl _

theorem issued_notifyDevices : Issued [] switch.host switch.notifyDevices.host := by
  rw [notifyDevices, Listeners.devicesChanged]
  split
  · exact (Issued.write _ _).trans (.of_same rfl rfl)
  · exact .write _ _

theorem issued_announce (view : List Device × Option Device) :
    Issued [] switch.host (switch.announce view).host := by
  rw [announce]
  split
  · exact .refl _
  · exact switch.issued_notifyDevices

theorem issued_yieldFailed (event : HeadsetEvent) :
    Issued [] switch.host (switch.yieldFailed event).host := by
  rw [yieldFailed]
  split
  · exact .write _ _
  · exact .refl _

theorem issued_reopenDropped (event : HeadsetEvent) :
    Issued [] switch.host (switch.reopenDropped event).host := by
  rw [reopenDropped]
  split
  · exact .write _ _
  · exact .refl _

/-- A callback tells the platform nothing; only what follows from it does. -/
theorem issued_applyCallback (callback : Callback) :
    Issued [] switch.host (switch.applyCallback callback).2.host := by
  rw [applyCallback]
  split
  · exact .write _ _
  split
  · rename_i event _
    rw [applyBluetooth]
    split
    · exact .refl _
    cases switch.tracker.report? event with
    | none => exact .refl _
    | some report =>
      have hTold := (Issued.writeAll switch.host (switch.tracker.remarks event)).trans
        (issued_notifyHeadset { switch with
          tracker := switch.tracker.apply event
          host := switch.host.writeAll (switch.tracker.remarks event) } report)
      exact (hTold.trans (issued_yieldFailed _ report)).trans (issued_reopenDropped _ report)
  · exact .writeAll _ _

theorem issued_startBluetooth : ∃ issued, (∀ command ∈ issued, command = .startListening) ∧
    Issued issued switch.host switch.startBluetooth.host := by
  have hBegun := Issued.startPermitted switch.tracker switch.session switch.host
  rw [startBluetooth]
  generalize switch.tracker.startPermitted switch.session switch.host = begun at *
  obtain ⟨result, tracker, host⟩ := begun
  have hIssued : ∃ issued, (∀ command ∈ issued, command = .startListening) ∧
      Issued issued switch.host host := by
    rcases hBegun with ⟨_, hIssued⟩ | ⟨_, _, hIssued⟩
    · exact ⟨_, by simp, hIssued⟩
    · exact ⟨_, by simp, hIssued⟩
  cases result with
  | ok => exact hIssued
  | error error =>
    obtain ⟨issued, hOnly, hIssued⟩ := hIssued
    exact ⟨issued, hOnly, hIssued.written _⟩

theorem issued_startWired : ∃ issued, (∀ command ∈ issued, command = .registerWired) ∧
    Issued issued switch.host switch.startWired.host := by
  have hBegun := Issued.startWired switch.wired switch.session switch.host
  rw [startWired]
  generalize switch.wired.start switch.session switch.host = begun at *
  obtain ⟨result, wired, host⟩ := begun
  have hIssued : ∃ issued, (∀ command ∈ issued, command = .registerWired) ∧
      Issued issued switch.host host := by
    rcases hBegun with ⟨_, hIssued⟩ | ⟨_, _, hIssued⟩
    · exact ⟨_, by simp, hIssued⟩
    · exact ⟨_, by simp, hIssued⟩
  cases result with
  | ok => exact hIssued
  | error error =>
    obtain ⟨issued, hOnly, hIssued⟩ := hIssued
    exact ⟨issued, hOnly, hIssued.written _⟩

theorem issued_deactivateRoute :
    Issued (if switch.route.activated then switch.route.silencing switch.tracker.listening? ++
      (if switch.route.focusHeld then [.abandonFocus] else []) ++ switch.route.restoring else [])
      switch.host switch.deactivateRoute.host :=
  .deactivate switch.route switch.tracker.listening? switch.host

theorem issued_leave : ∃ issued, (∀ command ∈ issued,
    command = .disableLink ∨ command = .stopListening ∨ command = .unregisterWired) ∧
      Issued issued switch.host switch.leave.host := by
  have hStopped := (Issued.stop switch.tracker switch.host).trans
    (Issued.stopWired switch.wired (switch.tracker.stop switch.host).2)
  refine ⟨_, fun command hMem => ?_, ⟨hStopped.commands, hStopped.platform⟩⟩
  rcases List.mem_append.mp hMem with hTracker | hWired
  · split at hTracker
    · rcases List.mem_append.mp hTracker with hLink | hListening
      · split at hLink
        · cases hLink
        · exact .inl (List.mem_singleton.mp hLink)
      · exact .inr (.inl (List.mem_singleton.mp hListening))
    · cases hTracker
  · split at hWired
    · exact .inr (.inr (List.mem_singleton.mp hWired))
    · cases hWired

end Switch

end CallAudio
