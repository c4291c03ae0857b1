import CallAudio.Proofs.Draining
import CallAudio.Proofs.Holdings

/-! # Sessions

The count of sessions never falls. A callback that comes in while the switch works is of the present
session, since only receivers of that session are registered; and a session that begins or ends leaves
no callback waiting. So none but a callback that the platform delivers late is ever stale.
-/

namespace CallAudio

variable {σ : Type} [Platform σ]

/-- What routing adds to the queue are replies to the receiver that is registered. -/
theorem LinkStep.waiting {before after : Tracker × Host σ} (h : LinkStep before after)
    {callback : Callback} (hMem : callback ∈ after.2.queue) :
    callback ∈ before.2.queue ∨
      before.2.bluetoothReceiver = some callback.session ∧ callback.IsReply := by
  have hAsked : ∀ (host : Host σ) address, callback ∈ (host.enableLink address).2.queue →
      callback ∈ host.queue ∨
        host.bluetoothReceiver = some callback.session ∧ callback.IsReply := by
    intro host address hMem
    rw [Host.enableLink] at hMem
    cases hAnswer : Platform.linkAnswer host.platform address with
    | confirmed =>
      simp only [hAnswer, Host.reportBluetooth] at hMem
      split at hMem
      · rename_i session hReceiver
        rcases List.mem_append.mp hMem with hOld | hNew
        · exact .inl hOld
        · rw [List.mem_singleton.mp hNew]
          exact .inr ⟨hReceiver, address, rfl⟩
      · exact .inl hMem
    | _ =>
      simp only [hAnswer] at hMem
      exact .inl hMem
  cases h with
  | write tracker host line =>
    rw [Host.queue_write] at hMem
    exact .inl hMem
  | «open» tracker host address => exact hAsked host address hMem
  | refuse tracker host address => exact hAsked host address hMem
  | _ => exact .inl hMem

theorem LinkSteps.waiting {before after : Tracker × Host σ} (h : LinkSteps before after)
    {callback : Callback} (hMem : callback ∈ after.2.queue) :
    callback ∈ before.2.queue ∨
      before.2.bluetoothReceiver = some callback.session ∧ callback.IsReply := by
  induction h with
  | refl => exact .inl hMem
  | tail hFirst hLast ih =>
    rcases hLast.waiting hMem with hOld | ⟨hReceiver, hReply⟩
    · exact ih hOld
    · have hSame := congrArg Prod.fst (LinkSteps.registrations hFirst).1
      exact .inr ⟨hSame.symm.trans hReceiver, hReply⟩

namespace Switch

variable {order : PreferredOrder} {config : SwitchConfig} {switch before after : Switch σ}

/-! ## Sessions only grow -/

omit [Platform σ] in
theorem session_enter (switch : Switch σ) (listener : Option Nat) :
    (switch.enter listener).session = switch.session + 1 := by
  rw [enter]
  split <;> rfl

theorem session_startBluetooth (switch : Switch σ) :
    switch.startBluetooth.session = switch.session := by
  obtain ⟨_, _, hEq, _⟩ := startBluetooth_eq switch
  rw [hEq]

theorem session_startWired (switch : Switch σ) : switch.startWired.session = switch.session := by
  obtain ⟨_, _, hEq⟩ := startWired_eq switch
  rw [hEq]

theorem session_absorb (switch : Switch σ) : switch.absorb.session = switch.session := by
  let kept (after : Switch σ) : Prop := after.session = switch.session
  have hCallback : ∀ (after : Switch σ) callback, kept after →
      kept (after.applyCallback callback).2 :=
    fun after callback hAfter => (session_applyCallback after callback).trans hAfter
  exact absorb_induction hCallback rfl

theorem session_start {listener : Option Nat} (hStopped : switch.phase = .stopped) (now : Nat) :
    (switch.start listener now).session = switch.session + 1 := by
  have hBegun : (switch.enter listener).startBluetooth.startWired.absorb.session =
      switch.session + 1 := by
    rw [session_absorb, session_startWired, session_startBluetooth, session_enter]
  rw [start, if_neg (not_not.mpr hStopped)]
  generalize (switch.enter listener).startBluetooth.startWired.absorb = begun at *
  have hRouted := ((reroutes_recompute begun []).trans (reroutes_applyRoute _ now)).trans
    (reroutes_notifyDevices _)
  exact hRouted.session.trans hBegun

/-! ## What waits belongs to the present session -/

structure Continues (before after : Switch σ) : Prop where
  session : after.session = before.session
  waiting : ∀ callback ∈ after.host.queue,
    callback ∈ before.host.queue ∨ callback.session = before.session

omit [Platform σ] in
theorem continues_of_same (hSession : after.session = before.session)
    (hQueue : after.host.queue = before.host.queue) : before.Continues after := by
  refine ⟨hSession, fun callback hMem => .inl ?_⟩
  rwa [← hQueue]

omit [Platform σ] in
theorem Continues.trans (h : before.Continues switch) (h' : switch.Continues after) :
    before.Continues after := by
  refine ⟨h'.session.trans h.session, fun callback hMem => ?_⟩
  rcases h'.waiting callback hMem with hOld | hNew
  · exact h.waiting callback hOld
  · exact .inr (hNew.trans h.session)

theorem Reroutes.continues (h : before.Reroutes after)
    (hReceiver : ∀ session, before.host.bluetoothReceiver = some session →
      session = before.session) : before.Continues after :=
  ⟨h.session, fun _ hMem => (h.steps.waiting hMem).imp_right fun hNew => hReceiver _ hNew.1⟩

omit [Platform σ] in
theorem Tidy.receiver (h : Tidy config switch) (session : Nat)
    (hReceiver : switch.host.bluetoothReceiver = some session) : session = switch.session := by
  rw [h.bluetooth] at hReceiver
  split at hReceiver
  · exact (Option.some.inj hReceiver).symm
  · cases hReceiver

omit [Platform σ] in
theorem queue_absorb (switch : Switch σ) : switch.absorb.host.queue = [] := by
  let kept (after : Switch σ) : Prop := after.host.queue = []
  have hCallback : ∀ (after : Switch σ) callback, kept after →
      kept (after.applyCallback callback).2 :=
    fun after callback hAfter => (queue_applyCallback after callback).trans hAfter
  exact absorb_induction hCallback rfl

theorem Consistent.queue_start (h : Consistent order switch) (hStopped : switch.phase = .stopped)
    (listener : Option Nat) (now : Nat) : (switch.start listener now).host.queue = [] := by
  obtain ⟨hBegun, _, hStarted⟩ := h.begin hStopped listener
  have hEmpty := queue_absorb (switch.enter listener).startBluetooth.startWired
  rw [Switch.start, if_neg (not_not.mpr hStopped)]
  generalize (switch.enter listener).startBluetooth.startWired.absorb = begun at *
  have hSilent : (begun.recompute []).route.isRouting = false :=
    hBegun.silent_of_phase (by rw [hStarted]; decide)
  simp only [applyRoute_of_silent hSilent]
  exact (Host.queue_devicesChanged _ _ _ _).trans ((queue_recompute begun []).trans hEmpty)

theorem queue_activate (route : Route) (host : Host σ) :
    (route.activate host).2.2.queue = host.queue := by
  have hReady : (route.prepare host).2.queue = host.queue := by
    rw [Route.prepare]
    split
    · rfl
    split <;> simp
  rw [Route.activate]
  generalize route.prepare host = ready at *
  obtain ⟨prepared, ready⟩ := ready
  simp only at hReady ⊢
  rw [Route.takeFocus, Host.requestFocus]
  cases prepared.focusHeld with
  | true => exact hReady
  | false => cases Platform.grantsFocus ready.platform <;> simpa using hReady

theorem queue_deactivateRoute (switch : Switch σ) :
    switch.deactivateRoute.host.queue = switch.host.queue := by
  have hSilenced : (switch.route.silence switch.tracker.listening? switch.host).2.queue =
      switch.host.queue := by
    rw [Route.silence]
    split <;> simp
  have hRestored : ∀ host : Host σ, (switch.route.restore host).queue = host.queue := by
    intro host
    rw [Route.restore]
    split <;> simp
  rw [deactivateRoute, Route.deactivate]
  generalize switch.route.silence switch.tracker.listening? switch.host = silenced at *
  cases switch.route.activated with
  | false => rfl
  | true =>
    simp only [Bool.not_true, Bool.false_eq_true, if_false, hRestored]
    split <;> exact hSilenced

/-- A receiver that is registered is greeted with the connected headsets, in its own session. -/
theorem waiting_startBluetooth (switch : Switch σ) {callback : Callback}
    (hMem : callback ∈ switch.startBluetooth.host.queue) :
    callback ∈ switch.host.queue ∨
      ∃ headset, callback = ⟨switch.session, .bluetooth (.connected headset)⟩ := by
  have hGreeted : ∀ (headsets : List Headset) (host : Host σ),
      host.bluetoothReceiver = some switch.session →
      callback ∈ (headsets.foldl (fun host headset => host.reportBluetooth (.connected headset))
        host).queue → callback ∈ host.queue ∨
          ∃ headset, callback = ⟨switch.session, .bluetooth (.connected headset)⟩ := by
    intro headsets
    induction headsets with
    | nil => exact fun _ _ hMem => .inl hMem
    | cons headset headsets ih =>
      intro host hReceiver hMem
      simp only [List.foldl_cons, Host.reportBluetooth, hReceiver] at hMem
      rcases ih (host.deliver _) hReceiver hMem with hOld | hNew
      · rcases List.mem_append.mp hOld with hOld | hNew
        · exact .inl hOld
        · exact .inr ⟨headset, List.mem_singleton.mp hNew⟩
      · exact .inr hNew
  have hBegun : callback ∈ (switch.tracker.startPermitted switch.session switch.host).2.2.queue →
      callback ∈ switch.host.queue ∨
        ∃ headset, callback = ⟨switch.session, .bluetooth (.connected headset)⟩ := by
    rw [Tracker.startPermitted, Tracker.start, Host.startListening]
    split
    · split
      · rw [Host.queue_write]
        exact .inl
      split
      · exact .inl
      cases Platform.listenRefusal? switch.host.platform with
      | some reason => exact .inl
      | none =>
        simp only [Host.queue_write]
        exact hGreeted _ _ rfl
    · exact .inl
  rw [startBluetooth] at hMem
  generalize switch.tracker.startPermitted switch.session switch.host = begun at *
  obtain ⟨result, tracker, host⟩ := begun
  cases result with
  | ok => exact hBegun hMem
  | error error => exact hBegun (by simpa [write] using hMem)

theorem Tidy.continues_next (h : Tidy config switch) (now : Nat) :
    switch.Continues ((switch.next? now).getD switch) := by
  rw [next?]
  split
  · exact continues_of_same rfl rfl
  rename_i callback rest hQueue
  have hTaken : switch.Continues (switch.requeue rest) := by
    refine ⟨rfl, fun other hMem => .inl ?_⟩
    rw [hQueue]
    exact List.mem_cons_of_mem callback hMem
  have hTidy : Tidy config (switch.requeue rest) := h.congr id rfl rfl rfl rfl ⟨_, _, rfl⟩ rfl
  have hApplied : (switch.requeue rest).Continues ((switch.requeue rest).applyCallback callback).2 :=
    continues_of_same (session_applyCallback _ callback) (queue_applyCallback _ callback)
  exact (hTaken.trans hApplied).trans
    ((reroutes_handle _ callback now).continues (hTidy.applyCallback callback).receiver)

theorem Tidy.continues_engage (h : Tidy config switch) (now : Nat) :
    switch.Continues (switch.engage now).2 := by
  rw [Switch.engage]
  split
  · exact continues_of_same rfl rfl
  have hQueue := queue_activate switch.route switch.host
  have hReceiver := (registrations_activate switch.route switch.host).2.1
  generalize switch.route.activate switch.host = taken at *
  obtain ⟨result, route, host⟩ := taken
  have hEngaged : switch.Continues { switch with phase := .activated, route, host } :=
    continues_of_same rfl hQueue
  have hOwn : ∀ session, host.bluetoothReceiver = some session → session = switch.session :=
    fun session hSome => h.receiver session (hReceiver.symm.trans hSome)
  cases result with
  | error error => exact hEngaged.trans ((reroutes_write _ _).continues hOwn)
  | ok =>
    have hRouted := (reroutes_applyRoute { switch with phase := .activated, route, host } now).trans
      (reroutes_announce _ switch.view)
    exact hEngaged.trans (hRouted.continues hOwn)

/-- A beat goes on with the session, or a session begins or ends and nothing waits any more. -/
theorem Consistent.beat_cases (h : Consistent order switch) (hTidy : Tidy config switch)
    (beat : Beat) : switch.Continues (switch.beat beat) ∨
      (switch.beat beat).session = switch.session + 1 ∧ (switch.beat beat).host.queue = [] := by
  cases beat with
  | callback now => exact .inl (hTidy.continues_next now)
  | poll now => exact .inl ((reroutes_poll switch now).continues hTidy.receiver)
  | act operation now =>
    cases operation with
    | start listener =>
      rw [Switch.beat, act]
      by_cases hStopped : switch.phase = .stopped
      · exact .inr ⟨session_start hStopped now, h.queue_start hStopped listener now⟩
      · rw [Switch.start, if_pos hStopped]
        exact .inl ((reroutes_write switch _).continues hTidy.receiver)
    | stop =>
      rw [Switch.beat, act, Switch.stop]
      split
      · exact .inl (continues_of_same rfl rfl)
      · exact .inr ⟨rfl, rfl⟩
    | activate => exact .inl (hTidy.continues_engage now)
    | deactivate =>
      rw [Switch.beat, act, Switch.disengage]
      split
      · exact .inl (continues_of_same rfl rfl)
      · exact .inl (continues_of_same rfl (queue_deactivateRoute switch))
    | select device =>
      rw [Switch.beat, act, Switch.choose]
      split
      · exact .inl ((reroutes_write switch _).continues hTidy.receiver)
      split
      · exact .inl ((reroutes_write switch _).continues hTidy.receiver)
      · have hPinned : switch.Continues (switch.pinTo device) := continues_of_same rfl rfl
        have hRefreshed := reroutes_refreshSince (switch.pinTo device) switch.view now
        exact .inl (hPinned.trans (hRefreshed.continues hTidy.receiver))
    | clearSelection =>
      rw [Switch.beat, act, Switch.unchoose]
      split
      · exact .inl (continues_of_same rfl rfl)
      · have hFreed : switch.Continues { switch with selector := switch.selector.clearPin } :=
          continues_of_same rfl rfl
        have hRefreshed := reroutes_refreshSince
          { switch with selector := switch.selector.clearPin } switch.view now
        exact .inl (hFreed.trans (hRefreshed.continues hTidy.receiver))
    | hostResumed =>
      rw [Switch.beat, act, Switch.resume]
      split
      · have hWritten := (reroutes_write switch (.info
          "Bluetooth permission granted, starting headset tracking" [])).continues hTidy.receiver
        refine .inl (hWritten.trans ⟨session_startBluetooth _, fun callback hMem => ?_⟩)
        rcases waiting_startBluetooth _ hMem with hOld | ⟨headset, rfl⟩
        · exact .inl hOld
        · exact .inr rfl
      · exact .inl (continues_of_same rfl rfl)
    | _ => exact .inl (continues_of_same rfl rfl)

def Current (switch : Switch σ) : Prop :=
  ∀ callback ∈ switch.host.queue, switch.session ≤ callback.session

theorem Consistent.session_beat (h : Consistent order switch) (hTidy : Tidy config switch)
    (beat : Beat) : switch.session ≤ (switch.beat beat).session := by
  rcases h.beat_cases hTidy beat with hContinues | ⟨hNext, _⟩
  · exact Nat.le_of_eq hContinues.session.symm
  · omega

theorem Current.beat (h : switch.Current) (hConsistent : Consistent order switch)
    (hTidy : Tidy config switch) (beat : Beat) : (switch.beat beat).Current := by
  intro callback hMem
  rcases hConsistent.beat_cases hTidy beat with hContinues | ⟨_, hNone⟩
  · rw [hContinues.session]
    rcases hContinues.waiting callback hMem with hOld | hNew
    · exact h callback hOld
    · omega
  · rw [hNone] at hMem
    cases hMem

theorem Consistent.session_perform (h : Consistent order switch) (hTidy : Tidy config switch)
    (operation : Operation) (now : Nat) :
    switch.session ≤ (switch.perform operation now).session := by
  let kept (after : Switch σ) : Prop :=
    Consistent order after ∧ Tidy config after ∧ switch.session ≤ after.session
  have hBeat : ∀ (after : Switch σ) beat, kept after → kept (after.beat beat) := by
    rintro after beat ⟨hConsistent, hTidy, hGrown⟩
    exact ⟨hConsistent.beat beat, hTidy.beat hConsistent beat,
      Nat.le_trans hGrown (hConsistent.session_beat hTidy beat)⟩
  exact (perform_induction hBeat ⟨h, hTidy, Nat.le_refl switch.session⟩ operation now).2.2

theorem Current.perform (h : switch.Current) (hConsistent : Consistent order switch)
    (hTidy : Tidy config switch) (operation : Operation) (now : Nat) :
    (switch.perform operation now).Current := by
  let kept (after : Switch σ) : Prop :=
    Consistent order after ∧ Tidy config after ∧ after.Current
  have hBeat : ∀ (after : Switch σ) beat, kept after → kept (after.beat beat) := by
    rintro after beat ⟨hConsistent, hTidy, hCurrent⟩
    exact ⟨hConsistent.beat beat, hTidy.beat hConsistent beat,
      hCurrent.beat hConsistent hTidy beat⟩
  exact (perform_induction hBeat ⟨hConsistent, hTidy, h⟩ operation now).2.2

end Switch

end CallAudio
