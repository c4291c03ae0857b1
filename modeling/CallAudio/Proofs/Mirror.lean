import CallAudio.Proofs.Reports

/-! # The switch mirrors the handset

Two copies of what is connected, one in the handset and one in the trackers, are kept in step by a
queue. Whoever registers is told what is there already; from then on every change is reported once,
and a callback that was applied is a change that the tracker knows.
-/

namespace CallAudio.Switch

/-- What the trackers know, brought up to date by `waiting`, is what the handset has. -/
structure Mirrors (waiting : List Callback) (switch : Switch Handset) : Prop where
  distinct : (switch.host.platform.connected.map (·.address)).Nodup
  registerable : switch.host.platform.registerRefusal = none
  bluetooth : switch.host.bluetoothReceiver =
    if switch.tracker.listening then some switch.session else none
  wired : switch.host.wiredReceiver =
    if switch.wired.registered then some switch.session else none
  running : switch.tracker.listening = true → switch.phase ≠ .stopped
  registered : switch.wired.registered = true → switch.phase ≠ .stopped
  current : ∀ callback ∈ waiting, callback.session = switch.session
  deaf : switch.tracker.listening = false →
    ∀ callback ∈ waiting, ∃ event, callback.report = .wired event
  mute : switch.wired.registered = false →
    ∀ callback ∈ waiting, ∃ event, callback.report = .bluetooth event
  headsets : switch.tracker.listening = true →
    waiting.foldl Callback.headsetsAfter switch.tracker.headsets =
      switch.host.platform.connected.reverse
  jack : switch.wired.registered = true →
    waiting.foldl Callback.jackAfter switch.wired.headset =
      switch.host.platform.plugged.map WiredTracker.shownName

def Shown (switch : Switch Handset) : Prop :=
  switch.phase ≠ .stopped → switch.selector.available =
    switch.selector.order.arrange (switch.roster switch.host.platform.hasEarpiece)

variable {waiting replies : List Callback} {switch after : Switch Handset}

theorem headsetsAfter_replies {receiver : Option Nat}
    (h : ∀ reply ∈ replies, reply.RepliesTo receiver) (headsets : List Headset) :
    replies.foldl Callback.headsetsAfter headsets = headsets := by
  induction replies generalizing headsets with
  | nil => rfl
  | cons reply replies ih =>
    obtain ⟨address, _, hReport⟩ := h reply List.mem_cons_self
    rw [List.foldl_cons, ih fun other hMem => h other (List.mem_cons_of_mem reply hMem),
      Callback.headsetsAfter, hReport]
    rfl

theorem jackAfter_replies {receiver : Option Nat}
    (h : ∀ reply ∈ replies, reply.RepliesTo receiver) (jack : Option String) :
    replies.foldl Callback.jackAfter jack = jack := by
  induction replies generalizing jack with
  | nil => rfl
  | cons reply replies ih =>
    obtain ⟨address, _, hReport⟩ := h reply List.mem_cons_self
    rw [List.foldl_cons, ih fun other hMem => h other (List.mem_cons_of_mem reply hMem),
      Callback.jackAfter, hReport]

theorem Mirrors.listening_of_reply (h : Mirrors waiting switch) {reply : Callback}
    (hReply : reply.RepliesTo switch.host.bluetoothReceiver) :
    switch.tracker.listening = true ∧ reply.session = switch.session := by
  obtain ⟨_, hReceiver, _⟩ := hReply
  rw [h.bluetooth] at hReceiver
  split at hReceiver
  · rename_i hListening
    exact ⟨hListening, (Option.some.inj hReceiver).symm⟩
  · cases hReceiver

/-- Replies about links are of no account. -/
theorem Mirrors.carry (h : Mirrors waiting switch)
    (hPhase : switch.phase ≠ .stopped → after.phase ≠ .stopped)
    (hSession : after.session = switch.session) (hWired : after.wired = switch.wired)
    (hListening : after.tracker.listening = switch.tracker.listening)
    (hHeadsets : after.tracker.headsets = switch.tracker.headsets)
    (hReplies : ∀ reply ∈ replies, reply.RepliesTo switch.host.bluetoothReceiver)
    (hHost : Undisturbed replies switch.host after.host) : Mirrors (waiting ++ replies) after where
  distinct := hHost.connected ▸ h.distinct
  registerable := hHost.registerRefusal.trans h.registerable
  bluetooth := by rw [hHost.bluetoothReceiver, hListening, hSession, h.bluetooth]
  wired := by rw [hHost.wiredReceiver, hWired, hSession, h.wired]
  running := by
    rw [hListening]
    exact fun hHears => hPhase (h.running hHears)
  registered := by
    rw [hWired]
    exact fun hRegistered => hPhase (h.registered hRegistered)
  current callback hMem := by
    rw [hSession]
    rcases List.mem_append.mp hMem with hOld | hNew
    · exact h.current callback hOld
    · exact (h.listening_of_reply (hReplies callback hNew)).2
  deaf hDeaf callback hMem := by
    rw [hListening] at hDeaf
    rcases List.mem_append.mp hMem with hOld | hNew
    · exact h.deaf hDeaf callback hOld
    · have hHears := (h.listening_of_reply (hReplies callback hNew)).1
      exact absurd (hHears.symm.trans hDeaf) (by decide)
  mute hMute callback hMem := by
    rw [hWired] at hMute
    rcases List.mem_append.mp hMem with hOld | hNew
    · exact h.mute hMute callback hOld
    · obtain ⟨address, _, hReport⟩ := hReplies callback hNew
      exact ⟨_, hReport⟩
  headsets hHears := by
    rw [hListening] at hHears
    rw [hHeadsets, hHost.connected, List.foldl_append, h.headsets hHears]
    exact headsetsAfter_replies hReplies _
  jack hRegistered := by
    rw [hWired] at hRegistered
    rw [hWired, hHost.plugged, List.foldl_append, h.jack hRegistered]
    exact jackAfter_replies hReplies _

theorem Mirrors.running_of_mem (h : Mirrors waiting switch) {callback : Callback}
    (hMem : callback ∈ waiting) : switch.phase ≠ .stopped := by
  intro hStopped
  have hDeaf : switch.tracker.listening = false :=
    Bool.eq_false_iff.mpr fun hListening => h.running hListening hStopped
  have hMute : switch.wired.registered = false :=
    Bool.eq_false_iff.mpr fun hRegistered => h.registered hRegistered hStopped
  obtain ⟨_, hWired⟩ := h.deaf hDeaf callback hMem
  obtain ⟨_, hBluetooth⟩ := h.mute hMute callback hMem
  cases hWired.symm.trans hBluetooth

/-- Routing keeps the mirror; `taken` are callbacks out of the queue that are still to be applied. -/
theorem Reroutes.mirrors (hReroutes : switch.Reroutes after) {taken : List Callback}
    (h : Mirrors (taken ++ switch.host.queue) switch) :
    Mirrors (taken ++ after.host.queue) after := by
  obtain ⟨replies, hReplies, hHost⟩ := hReroutes.steps.undisturbed
  obtain ⟨hListening, hHeadsets, _⟩ := hReroutes.steps.headsets
  rw [hHost.queue, ← List.append_assoc]
  exact h.carry (fun hRunning => hReroutes.phase ▸ hRunning) hReroutes.session hReroutes.wired
    hListening hHeadsets hReplies hHost

theorem Reroutes.mirrors_queue (hReroutes : switch.Reroutes after)
    (h : Mirrors switch.host.queue switch) : Mirrors after.host.queue after :=
  @Reroutes.mirrors switch after hReroutes [] h

theorem Mirrors.still (h : Mirrors switch.host.queue switch) (after : Switch Handset)
    (hPhase : switch.phase ≠ .stopped → after.phase ≠ .stopped)
    (hSession : after.session = switch.session) (hWired : after.wired = switch.wired)
    (hListening : after.tracker.listening = switch.tracker.listening)
    (hHeadsets : after.tracker.headsets = switch.tracker.headsets)
    (hHost : Undisturbed [] switch.host after.host) : Mirrors after.host.queue after := by
  rw [hHost.queue]
  exact h.carry hPhase hSession hWired hListening hHeadsets (by simp) hHost

theorem apply_of_silent {tracker : Tracker} {event : BluetoothEvent}
    (h : tracker.report? event = none) : tracker.apply event = tracker := by
  cases event with
  | connected headset => cases h
  | _ =>
    rw [Tracker.apply, if_pos]
    simpa [Tracker.report?] using h

theorem Mirrors.hear {session : Nat} {event : BluetoothEvent} {taken : List Callback}
    (h : Mirrors (⟨session, .bluetooth event⟩ :: (taken ++ switch.host.queue)) switch)
    (hListening : switch.tracker.listening = true) {host : Host Handset}
    (hHost : Undisturbed [] switch.host host) :
    Mirrors (taken ++ host.queue) { switch with tracker := switch.tracker.apply event, host } := by
  have hQueue : host.queue = switch.host.queue := hHost.queue.trans (List.append_nil _)
  have hLater : ∀ callback ∈ taken ++ host.queue,
      callback ∈ ⟨session, .bluetooth event⟩ :: (taken ++ switch.host.queue) := by
    intro callback hMem
    exact List.mem_cons_of_mem _ (hQueue ▸ hMem)
  refine ⟨hHost.connected ▸ h.distinct, hHost.registerRefusal.trans h.registerable, ?_,
    hHost.wiredReceiver.trans h.wired, fun _ => h.running hListening, h.registered,
    fun callback hMem => h.current callback (hLater callback hMem), ?_,
    fun hMute callback hMem => h.mute hMute callback (hLater callback hMem), ?_, ?_⟩
  · simp only [Tracker.listening_apply]
    exact hHost.bluetoothReceiver.trans h.bluetooth
  · intro hDeaf callback hMem
    rw [Tracker.listening_apply] at hDeaf
    exact h.deaf hDeaf callback (hLater callback hMem)
  · intro _
    simp only [Tracker.headsets_apply, hQueue, hHost.connected]
    exact h.headsets hListening
  · intro hRegistered
    simp only [hQueue, hHost.plugged]
    exact h.jack hRegistered

theorem Mirrors.applyBluetooth {session : Nat} {event : BluetoothEvent} {taken : List Callback}
    (h : Mirrors (⟨session, .bluetooth event⟩ :: (taken ++ switch.host.queue)) switch) :
    Mirrors (taken ++ (switch.applyBluetooth event).2.host.queue)
      (switch.applyBluetooth event).2 := by
  have hListening : switch.tracker.listening = true := by
    by_contra hDeaf
    obtain ⟨_, hWired⟩ := h.deaf (by simpa using hDeaf) _ List.mem_cons_self
    cases hWired
  rw [Switch.applyBluetooth, hListening]
  simp only [Bool.not_true, Bool.false_eq_true, if_false]
  cases hReport : switch.tracker.report? event with
  | none =>
    have hHeard := h.hear hListening (.refl switch.host)
    rwa [apply_of_silent hReport] at hHeard
  | some report =>
    have hHeard := h.hear hListening (.writeAll switch.host (switch.tracker.remarks event))
    exact (((reroutes_notifyHeadset _ report).trans (reroutes_yieldFailed _ report)).trans
      (reroutes_reopenDropped _ report)).mirrors hHeard

theorem Mirrors.applyWired {session : Nat} {event : WiredEvent} {taken : List Callback}
    (h : Mirrors (⟨session, .wired event⟩ :: (taken ++ switch.host.queue)) switch) :
    Mirrors (taken ++ (switch.applyWired event).2.host.queue) (switch.applyWired event).2 := by
  have hRegistered : switch.wired.registered = true := by
    by_contra hMute
    obtain ⟨_, hBluetooth⟩ := h.mute (by simpa using hMute) _ List.mem_cons_self
    cases hBluetooth
  have hHost := Undisturbed.writeAll switch.host (switch.wired.remarks event)
  have hQueue : (switch.applyWired event).2.host.queue = switch.host.queue :=
    hHost.queue.trans (List.append_nil _)
  rw [hQueue]
  have hLater : ∀ callback ∈ taken ++ switch.host.queue,
      callback ∈ ⟨session, .wired event⟩ :: (taken ++ switch.host.queue) :=
    fun callback hMem => List.mem_cons_of_mem _ hMem
  refine ⟨hHost.connected ▸ h.distinct, hHost.registerRefusal.trans h.registerable,
    hHost.bluetoothReceiver.trans h.bluetooth, hHost.wiredReceiver.trans h.wired, h.running,
    h.registered, fun callback hMem => h.current callback (hLater callback hMem),
    fun hDeaf callback hMem => h.deaf hDeaf callback (hLater callback hMem),
    fun hMute callback hMem => h.mute hMute callback (hLater callback hMem), ?_, ?_⟩
  · intro hHears
    exact (h.headsets hHears).trans (congrArg List.reverse hHost.connected).symm
  · intro _
    exact (h.jack hRegistered).trans (congrArg (Option.map _) hHost.plugged).symm

theorem Mirrors.applyCallback {callback : Callback} {taken : List Callback}
    (h : Mirrors (callback :: (taken ++ switch.host.queue)) switch) :
    Mirrors (taken ++ (switch.applyCallback callback).2.host.queue)
      (switch.applyCallback callback).2 := by
  have hRunning := h.running_of_mem List.mem_cons_self
  have hCurrent : callback.session = switch.session := h.current callback List.mem_cons_self
  rw [Switch.applyCallback, if_neg (by simp [hRunning, hCurrent])]
  obtain ⟨session, report⟩ := callback
  cases report with
  | bluetooth event => exact h.applyBluetooth
  | wired event => exact h.applyWired

end CallAudio.Switch
