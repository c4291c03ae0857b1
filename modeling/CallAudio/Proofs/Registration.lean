import CallAudio.Proofs.Mirror

/-! # Registration

A receiver for Bluetooth events is told of every connected headset at once, a receiver for plug
events asks what is in the jack. Either way the tracker starts from what the handset has, whatever
happened to the handset before and whatever waits in the queue for the other tracker.
-/

namespace CallAudio

def Host.greetings (session : Nat) (headsets : List Headset) : List Callback :=
  headsets.map fun headset => ⟨session, .bluetooth (.connected headset)⟩

theorem Host.reportAll_eq {host : Host Handset} {session : Nat}
    (h : host.bluetoothReceiver = some session) (headsets : List Headset) :
    headsets.foldl (fun host headset => host.reportBluetooth (.connected headset)) host =
      { host with queue := host.queue ++ greetings session headsets } := by
  induction headsets generalizing host with
  | nil => simp [greetings]
  | cons headset headsets ih =>
    have hReported : host.reportBluetooth (.connected headset) =
        host.deliver ⟨session, .bluetooth (.connected headset)⟩ := by
      rw [reportBluetooth, h]
    have hReceiver : (host.deliver ⟨session, .bluetooth (.connected headset)⟩).bluetoothReceiver =
        some session := h
    rw [List.foldl_cons, hReported]
    exact (ih hReceiver).trans (by simp [deliver, greetings])

/-- Told of headsets one after the other, a tracker knows the last one first. -/
theorem headsetsAfter_greetings (session : Nat) {headsets known : List Headset}
    (hDistinct : ((known.reverse ++ headsets).map (·.address)).Nodup) :
    (Host.greetings session headsets).foldl Callback.headsetsAfter known =
      headsets.reverse ++ known := by
  induction headsets generalizing known with
  | nil => rfl
  | cons headset headsets ih =>
    have hNew : known.filter (·.address ≠ headset.address) = known := by
      refine List.filter_eq_self.mpr fun other hMem => decide_eq_true fun hSame => ?_
      rw [List.map_append, List.nodup_append] at hDistinct
      exact hDistinct.2.2 other.address (by simpa using ⟨other, hMem, rfl⟩) headset.address
        (by simp) hSame
    have hRest : (((headset :: known).reverse ++ headsets).map (·.address)).Nodup := by
      simpa using hDistinct
    have hFirst : Callback.headsetsAfter known ⟨session, .bluetooth (.connected headset)⟩ =
        headset :: known := congrArg (headset :: ·) hNew
    rw [Host.greetings, List.map_cons, List.foldl_cons, hFirst]
    exact (ih hRest).trans (by simp)

theorem headsetsAfter_wired {waiting : List Callback}
    (h : ∀ callback ∈ waiting, ∃ event, callback.report = .wired event) (headsets : List Headset) :
    waiting.foldl Callback.headsetsAfter headsets = headsets := by
  induction waiting generalizing headsets with
  | nil => rfl
  | cons callback waiting ih =>
    obtain ⟨event, hReport⟩ := h callback List.mem_cons_self
    rw [List.foldl_cons, Callback.headsetsAfter, hReport]
    exact ih (fun other hMem => h other (List.mem_cons_of_mem callback hMem)) headsets

theorem jackAfter_bluetooth {waiting : List Callback}
    (h : ∀ callback ∈ waiting, ∃ event, callback.report = .bluetooth event)
    (jack : Option String) : waiting.foldl Callback.jackAfter jack = jack := by
  induction waiting generalizing jack with
  | nil => rfl
  | cons callback waiting ih =>
    obtain ⟨event, hReport⟩ := h callback List.mem_cons_self
    rw [List.foldl_cons, Callback.jackAfter, hReport]
    exact ih (fun other hMem => h other (List.mem_cons_of_mem callback hMem)) jack

/-- Opening the gate registers a receiver, which is greeted, or it leaves no trace. -/
theorem Tracker.startPermitted_eq {tracker : Tracker} (hDeaf : tracker.listening = false)
    (session : Nat) (host : Host Handset) :
    (∃ error, tracker.startPermitted session host = (.error error, tracker, host)) ∨
      ∃ line, tracker.startPermitted session host = (.ok (), { tracker with listening := true },
        ({ host.issue .startListening with
          bluetoothReceiver := some session
          queue := host.queue ++ Host.greetings session host.platform.connected } :
            Host Handset).write line) := by
  rw [startPermitted]
  split
  · rw [start, hDeaf]
    simp only [Bool.false_eq_true, if_false]
    split
    · exact .inl ⟨_, rfl⟩
    · rw [Host.startListening]
      cases Platform.listenRefusal? host.platform with
      | some reason => exact .inl ⟨_, rfl⟩
      | none =>
        simp only
        rw [Host.reportAll_eq rfl]
        exact .inr ⟨_, rfl⟩
  · exact .inl ⟨_, rfl⟩

theorem mem_greetings {session : Nat} {headsets : List Headset} {callback : Callback}
    (h : callback ∈ Host.greetings session headsets) :
    ∃ headset, callback = ⟨session, .bluetooth (.connected headset)⟩ := by
  obtain ⟨headset, _, rfl⟩ := List.mem_map.mp h
  exact ⟨headset, rfl⟩

namespace Switch

variable {switch : Switch Handset}

theorem Mirrors.startBluetooth (h : Mirrors switch.host.queue switch)
    (hDeaf : switch.tracker.listening = false) (hNone : switch.tracker.headsets = [])
    (hRunning : switch.phase ≠ .stopped) :
    Mirrors switch.startBluetooth.host.queue switch.startBluetooth := by
  rw [Switch.startBluetooth]
  rcases Tracker.startPermitted_eq hDeaf switch.session switch.host with
    ⟨error, hRefused⟩ | ⟨line, hOpened⟩
  · rw [hRefused]
    exact (reroutes_write switch _).mirrors_queue h
  rw [hOpened]
  generalize hGreeted : ({ switch with
    tracker := { switch.tracker with listening := true }
    host := { switch.host.issue .startListening with
      bluetoothReceiver := some switch.session
      queue := switch.host.queue ++
        Host.greetings switch.session switch.host.platform.connected } } : Switch Handset) = greeted
  have hMirrors : Mirrors greeted.host.queue greeted := by
    subst hGreeted
    refine ⟨h.distinct, h.registerable, rfl, h.wired, fun _ => hRunning, h.registered, ?_,
      ?_, ?_, ?_, ?_⟩
    · intro callback hMem
      rcases List.mem_append.mp hMem with hOld | hNew
      · exact h.current callback hOld
      · obtain ⟨headset, rfl⟩ := mem_greetings hNew
        rfl
    · rintro ⟨⟩
    · intro hMute callback hMem
      rcases List.mem_append.mp hMem with hOld | hNew
      · exact h.mute hMute callback hOld
      · obtain ⟨headset, rfl⟩ := mem_greetings hNew
        exact ⟨_, rfl⟩
    · intro _
      simp only [hNone]
      rw [List.foldl_append, headsetsAfter_wired (h.deaf hDeaf), headsetsAfter_greetings]
      · exact List.append_nil _
      · exact h.distinct
    · intro hRegistered
      simp only
      rw [List.foldl_append, h.jack hRegistered]
      refine jackAfter_bluetooth (fun callback hMem => ?_) _
      obtain ⟨headset, rfl⟩ := mem_greetings hMem
      exact ⟨_, rfl⟩
  have hWritten := (reroutes_write greeted line).mirrors_queue hMirrors
  rwa [← hGreeted] at hWritten

theorem Mirrors.startWired (h : Mirrors switch.host.queue switch)
    (hMute : switch.wired.registered = false) (hRunning : switch.phase ≠ .stopped) :
    Mirrors switch.startWired.host.queue switch.startWired ∧
      switch.startWired.wired.registered = true := by
  have hAccepted : switch.host.registerWired switch.session = .ok
      { switch.host.issue .registerWired with wiredReceiver := some switch.session } := by
    have hRefusal : Platform.registerRefusal? switch.host.platform = none := h.registerable
    rw [Host.registerWired, hRefusal]
  rw [Switch.startWired, WiredTracker.start, hMute, hAccepted]
  generalize hRegistered : ({ switch with
    wired := ⟨true, switch.host.platform.plugged.map WiredTracker.shownName⟩
    host := { switch.host.issue .registerWired with
      wiredReceiver := some switch.session } } : Switch Handset) = registered
  have hMirrors : Mirrors registered.host.queue registered := by
    subst hRegistered
    refine ⟨h.distinct, h.registerable, h.bluetooth, rfl, h.running, fun _ => hRunning, h.current,
      h.deaf, ?_, h.headsets, ?_⟩
    · rintro ⟨⟩
    · intro _
      exact jackAfter_bluetooth (h.mute hMute) _
  have hWritten := (reroutes_write registered (.debug "Wired headset receiver registered"
    [("plugged", flagText (switch.host.platform.plugged.map WiredTracker.shownName).isSome)]))
      |>.mirrors_queue hMirrors
  rw [← hRegistered] at hWritten
  exact ⟨hWritten, rfl⟩

end Switch

end CallAudio
