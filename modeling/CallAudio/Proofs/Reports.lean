import CallAudio.Proofs.Operations

/-! # Reports of the simulated handset

The switch learns what is connected and plugged in from callbacks alone. What the trackers know,
brought up to date by the callbacks that wait, is what the handset has; routing adds nothing to
them but replies about links.
-/

namespace CallAudio

def BluetoothEvent.headsetsAfter (headsets : List Headset) : BluetoothEvent → List Headset
  | connected headset => headset :: headsets.filter (·.address ≠ headset.address)
  | disconnected address => headsets.filter (·.address ≠ address)
  | _ => headsets

namespace Callback

def headsetsAfter (headsets : List Headset) (callback : Callback) : List Headset :=
  match callback.report with
  | .bluetooth event => event.headsetsAfter headsets
  | .wired _ => headsets

def jackAfter (jack : Option String) (callback : Callback) : Option String :=
  match callback.report with
  | .bluetooth _ => jack
  | .wired event => WiredTracker.headsetAfter event

def RepliesTo (receiver : Option Nat) (callback : Callback) : Prop :=
  ∃ address, receiver = some callback.session ∧
    callback.report = .bluetooth (.audioConnected address)

end Callback

theorem Tracker.headsets_apply (tracker : Tracker) (event : BluetoothEvent) :
    (tracker.apply event).headsets = event.headsetsAfter tracker.headsets := by
  cases event with
  | connected headset => rfl
  | disconnected address =>
    rw [apply]
    split
    · rename_i hUnknown
      have hAbsent := find?_eq_none_iff.mp (Option.isNone_iff_eq_none.mp hUnknown)
      refine (List.filter_eq_self.mpr fun headset hMem => ?_).symm
      refine decide_eq_true fun hSame => hAbsent ?_
      rw [← hSame]
      exact mem_addresses hMem
    · rfl
  | _ =>
    rw [apply]
    split <;> rfl

structure Undisturbed (replies : List Callback) (before after : Host Handset) : Prop where
  connected : after.platform.connected = before.platform.connected
  plugged : after.platform.plugged = before.platform.plugged
  hasEarpiece : after.platform.hasEarpiece = before.platform.hasEarpiece
  registerRefusal : after.platform.registerRefusal = before.platform.registerRefusal
  bluetoothReceiver : after.bluetoothReceiver = before.bluetoothReceiver
  wiredReceiver : after.wiredReceiver = before.wiredReceiver
  queue : after.queue = before.queue ++ replies

namespace Undisturbed

variable {replies more : List Callback} {before middle after : Host Handset}

theorem refl (host : Host Handset) : Undisturbed [] host host :=
  ⟨rfl, rfl, rfl, rfl, rfl, rfl, (List.append_nil _).symm⟩

theorem trans (h : Undisturbed replies before middle) (h' : Undisturbed more middle after) :
    Undisturbed (replies ++ more) before after where
  connected := h'.connected.trans h.connected
  plugged := h'.plugged.trans h.plugged
  hasEarpiece := h'.hasEarpiece.trans h.hasEarpiece
  registerRefusal := h'.registerRefusal.trans h.registerRefusal
  bluetoothReceiver := h'.bluetoothReceiver.trans h.bluetoothReceiver
  wiredReceiver := h'.wiredReceiver.trans h.wiredReceiver
  queue := by rw [h'.queue, h.queue, List.append_assoc]

theorem write (host : Host Handset) (line : LogLine) : Undisturbed [] host (host.write line) := by
  refine ⟨?_, ?_, ?_, ?_, ?_, ?_, ?_⟩ <;> simp

theorem writeAll (host : Host Handset) (lines : List LogLine) :
    Undisturbed [] host (host.writeAll lines) := by
  induction lines generalizing host with
  | nil => exact .refl host
  | cons line lines ih => exact (write host line).trans (ih (host.write line))

theorem notify (host : Host Handset) (notice : Notice) :
    Undisturbed [] host (host.notify notice) :=
  ⟨rfl, rfl, rfl, rfl, rfl, rfl, (List.append_nil _).symm⟩

theorem deliver (host : Host Handset) (callback : Callback) :
    Undisturbed [callback] host (host.deliver callback) :=
  ⟨rfl, rfl, rfl, rfl, rfl, rfl, rfl⟩

theorem issue (host : Host Handset) (command : Command) :
    Undisturbed [] host (host.issue command) := by
  have hQueue : (host.issue command).queue = host.queue ++ [] := (List.append_nil _).symm
  cases command <;> exact ⟨rfl, rfl, rfl, rfl, rfl, rfl, hQueue⟩

theorem enableLink (host : Host Handset) (address : String) :
    ∃ replies, (∀ reply ∈ replies, reply.RepliesTo host.bluetoothReceiver) ∧
      Undisturbed replies host (host.enableLink address).2 := by
  have hIssued := issue host (.enableLink address)
  rw [Host.enableLink]
  cases Platform.linkAnswer host.platform address with
  | refused reason => exact ⟨[], by simp, hIssued⟩
  | pending => exact ⟨[], by simp, hIssued⟩
  | confirmed =>
    simp only [Host.reportBluetooth]
    cases hReceiver : (host.issue (.enableLink address)).bluetoothReceiver with
    | none => exact ⟨[], by simp, hIssued⟩
    | some receiver =>
      refine ⟨[⟨receiver, .bluetooth (.audioConnected address)⟩], ?_, hIssued.trans (deliver _ _)⟩
      intro reply hReply
      rw [List.mem_singleton.mp hReply]
      exact ⟨address, hReceiver, rfl⟩

theorem closeLink (tracker : Tracker) (host : Host Handset) :
    Undisturbed [] host (tracker.closeLink host).2 := by
  rw [Tracker.closeLink]
  split
  · exact refl host
  · exact (write host _).trans (issue _ _)

theorem silence (route : Route) (tracker : Option Tracker) (host : Host Handset) :
    Undisturbed [] host (route.silence tracker host).2 := by
  rw [Route.silence]
  split
  · cases tracker with
    | none => exact refl host
    | some tracker => exact closeLink tracker host
  · exact issue host _
  · exact refl host

theorem abandonFocus (host : Host Handset) : Undisturbed [] host host.abandonFocus :=
  (issue host .abandonFocus).trans ⟨rfl, rfl, rfl, rfl, rfl, rfl, (List.append_nil _).symm⟩

theorem restore (route : Route) (host : Host Handset) :
    Undisturbed [] host (route.restore host) := by
  rw [Route.restore]
  split
  · exact (((write host _).trans (issue _ _)).trans (issue _ _)).trans (issue _ _)
  · exact refl host

theorem deactivate (route : Route) (tracker : Option Tracker) (host : Host Handset) :
    Undisturbed [] host (route.deactivate tracker host).2.2 := by
  have hSilenced := silence route tracker host
  rw [Route.deactivate]
  split
  · exact refl host
  generalize route.silence tracker host = silenced at *
  have hFocus : Undisturbed [] host
      (if route.focusHeld then silenced.2.abandonFocus else silenced.2) := by
    split
    · exact hSilenced.trans (abandonFocus _)
    · exact hSilenced
  exact hFocus.trans (restore route _)

theorem prepare (route : Route) (host : Host Handset) :
    Undisturbed [] host (route.prepare host).2 := by
  rw [Route.prepare]
  split
  · exact refl host
  split
  · exact refl host
  · exact (((write host _).trans (issue _ _)).trans (issue _ _)).trans (issue _ _)

theorem requestFocus (host : Host Handset) (listener : Option Nat) :
    Undisturbed [] host (host.requestFocus listener).2 := by
  rw [Host.requestFocus]
  split
  · exact (issue host .requestFocus).trans ⟨rfl, rfl, rfl, rfl, rfl, rfl, (List.append_nil _).symm⟩
  · exact issue host _

theorem activate (route : Route) (host : Host Handset) :
    Undisturbed [] host (route.activate host).2.2 := by
  have hPrepared := prepare route host
  rw [Route.activate]
  generalize route.prepare host = prepared at *
  obtain ⟨prepared, ready⟩ := prepared
  have hAsked := requestFocus ready prepared.focusListener
  simp only at hPrepared ⊢
  rw [Route.takeFocus]
  split
  · exact hPrepared
  generalize ready.requestFocus prepared.focusListener = asked at *
  obtain ⟨granted, asked⟩ := asked
  cases granted <;> exact (hPrepared.trans hAsked).trans (write asked _)

end Undisturbed

/-- Routing adds nothing but replies about links. -/
theorem LinkStep.undisturbed {before after : Tracker × Host Handset} (h : LinkStep before after) :
    ∃ replies, (∀ reply ∈ replies, reply.RepliesTo before.2.bluetoothReceiver) ∧
      Undisturbed replies before.2 after.2 := by
  cases h with
  | write tracker host line => exact ⟨[], by simp, .write host line⟩
  | notify tracker host notice => exact ⟨[], by simp, .notify host notice⟩
  | speaker tracker host on => exact ⟨[], by simp, .issue host _⟩
  | close tracker host => exact ⟨[], by simp, .issue host _⟩
  | «open» tracker host address => exact Undisturbed.enableLink host address
  | refuse tracker host address => exact Undisturbed.enableLink host address
  | expire tracker host => exact ⟨[], by simp, .issue host _⟩

theorem LinkSteps.undisturbed {before after : Tracker × Host Handset} (h : LinkSteps before after) :
    ∃ replies, (∀ reply ∈ replies, reply.RepliesTo before.2.bluetoothReceiver) ∧
      Undisturbed replies before.2 after.2 := by
  induction h with
  | refl => exact ⟨[], by simp, .refl _⟩
  | tail _ hLast ih =>
    obtain ⟨replies, hReplies, hSame⟩ := ih
    obtain ⟨more, hMore, hLast⟩ := hLast.undisturbed
    rw [hSame.bluetoothReceiver] at hMore
    refine ⟨replies ++ more, fun reply hMem => ?_, hSame.trans hLast⟩
    rcases List.mem_append.mp hMem with hOld | hNew
    · exact hReplies reply hOld
    · exact hMore reply hNew

end CallAudio
