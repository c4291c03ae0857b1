import CallAudio.Proofs.Sessions
import CallAudio.Proofs.Veils

/-! # Stale callbacks

A callback of another session is dropped when its turn comes, and so is every callback while the
switch is stopped. Nothing but the log tells that it was ever there: the queue is drained, and a
whole run goes, as if it had not come. The session only ever grows, so what is stale stays stale.
-/

namespace CallAudio

inductive Thinned (stale : Callback → Prop) : List Callback → List Callback → Prop
  | nil : Thinned stale [] []
  | keep (callback : Callback) {queue rest : List Callback} :
    Thinned stale queue rest → Thinned stale (callback :: queue) (callback :: rest)
  | drop {callback : Callback} {queue rest : List Callback} :
    stale callback → Thinned stale queue rest → Thinned stale (callback :: queue) rest

namespace Thinned

variable {stale other : Callback → Prop} {queue rest : List Callback}

theorem refl (queue : List Callback) : Thinned stale queue queue := by
  induction queue with
  | nil => exact .nil
  | cons callback queue ih => exact .keep callback ih

theorem mono (h : Thinned stale queue rest) (hOther : ∀ callback, stale callback → other callback) :
    Thinned other queue rest := by
  induction h with
  | nil => exact .nil
  | keep callback _ ih => exact .keep callback ih
  | drop hStale _ ih => exact .drop (hOther _ hStale) ih

theorem append (h : Thinned stale queue rest) {more less : List Callback}
    (hMore : Thinned stale more less) : Thinned stale (queue ++ more) (rest ++ less) := by
  induction h with
  | nil => exact hMore
  | keep callback _ ih => exact .keep callback ih
  | drop hStale _ ih => exact .drop hStale ih

theorem filter (live : Callback → Bool) (queue : List Callback) :
    Thinned (live · = false) queue (queue.filter live) := by
  induction queue with
  | nil => exact .nil
  | cons callback queue ih =>
    rw [List.filter_cons]
    cases hLive : live callback with
    | true => exact .keep callback ih
    | false => exact .drop hLive ih

theorem nil_left (h : Thinned stale [] rest) : rest = [] := by
  cases h
  rfl

end Thinned

def Veil.backlog {σ : Type} [Platform σ] (waiting : List Callback) (log : List LogLine) :
    Veil σ where
  hide host := { host with queue := waiting ++ host.queue, log := log ++ host.log }
  adapterAvailable _ := rfl
  bluetoothPermitted _ := rfl
  registerRefusal? _ := rfl
  pluggedHeadset? _ := rfl
  hasEarpiece _ := rfl
  grantsFocus _ := rfl
  audioState _ := rfl
  bluetoothReceiver _ := rfl
  write host line := by cases hLogging : host.logging <;> simp [Host.write, hLogging]
  notify _ _ := rfl
  deliver host callback := by simp [Host.deliver]
  issue _ _ := rfl
  hear _ _ := rfl
  watch _ _ := rfl
  attend _ _ := rfl

theorem Veil.clear_backlog {σ : Type} [Platform σ] (waiting : List Callback)
    (log : List LogLine) : (Veil.backlog waiting log : Veil σ).Clear :=
  ⟨fun _ => rfl, fun _ => rfl, fun _ _ => rfl⟩

namespace Switch

variable {σ : Type}

def bare (switch : Switch σ) : Switch σ :=
  { switch with host := { switch.host with queue := [], log := [] } }

/-- Two switches alike, but for the log and for stale callbacks that wait only at the first. -/
structure Matches (stale : Callback → Prop) (full thin : Switch σ) : Prop where
  bare : full.bare = thin.bare
  queue : Thinned stale full.host.queue thin.host.queue

variable {stale other : Callback → Prop} {switch full thin : Switch σ}

theorem veiled_bare [Platform σ] (switch : Switch σ) :
    switch.bare.veiled (.backlog switch.host.queue switch.host.log) = switch := by
  simp [bare, veiled, Veil.backlog]

@[simp] theorem bare_write (switch : Switch σ) (line : LogLine) :
    (switch.write line).bare = switch.bare := by
  cases hLogging : switch.host.logging <;> simp [write, Host.write, bare, hLogging]

theorem spares_backlog [Platform σ] (waiting : List Callback) (log : List LogLine)
    (switch : Switch σ) : Spares (.backlog waiting log) switch :=
  .inl (Veil.clear_backlog waiting log)

theorem Matches.mono (h : Matches stale full thin)
    (hOther : ∀ callback, stale callback → other callback) : Matches other full thin :=
  ⟨h.bare, h.queue.mono hOther⟩

/-- What heeds neither the waiting callbacks nor the log does the same to both. -/
theorem Matches.map [Platform σ] {f : Switch σ → Switch σ}
    (hVeiled : ∀ waiting log (switch : Switch σ),
      f (switch.veiled (.backlog waiting log)) = (f switch).veiled (.backlog waiting log))
    (h : Matches stale full thin) : Matches stale (f full) (f thin) := by
  have hFull := hVeiled full.host.queue full.host.log full.bare
  have hThin := hVeiled thin.host.queue thin.host.log thin.bare
  rw [veiled_bare] at hFull hThin
  rw [hFull, hThin, ← h.bare]
  exact ⟨rfl, h.queue.append (.refl _)⟩

theorem Matches.phase (h : Matches stale full thin) : thin.phase = full.phase :=
  (congrArg Switch.phase h.bare).symm

theorem Matches.session (h : Matches stale full thin) : thin.session = full.session :=
  (congrArg Switch.session h.bare).symm

def Ignores (switch : Switch σ) (callback : Callback) : Prop :=
  callback.session ≠ switch.session ∨ switch.phase = .stopped

theorem applyCallback_ignored {callback : Callback} (h : switch.Ignores callback) :
    ∃ line, switch.applyCallback callback = (false, switch.write line) :=
  ⟨_, if_pos h⟩

theorem Matches.write (h : Matches stale full thin) (line : LogLine) :
    Matches stale (full.write line) thin := by
  refine ⟨(bare_write full line).trans h.bare, ?_⟩
  rw [Switch.write, Host.queue_write]
  exact h.queue

variable [Platform σ] {now : Nat}

theorem handle_ignored (switch : Switch σ) (callback : Callback) (h : switch.Ignores callback)
    (now : Nat) :
    ∃ line, switch.handle callback now = switch.write line := by
  obtain ⟨line, hEq⟩ := applyCallback_ignored h
  refine ⟨line, ?_⟩
  rw [handle_unchanged (by rw [hEq]), hEq]

theorem ignores_handle (switch : Switch σ) (callback : Callback) (now : Nat) {other : Callback} :
    (switch.handle callback now).Ignores other ↔ switch.Ignores other := by
  have hHandled := reroutes_handle switch callback now
  rw [Ignores, hHandled.session, hHandled.phase, session_applyCallback, phase_applyCallback]
  rfl

/-- Queues that run empty are drained to the same end. -/
theorem Matches.drainWithin (h : Matches stale full thin)
    (hStale : ∀ callback, stale callback → full.Ignores callback) {count fewer : Nat}
    (hFull : (full.drainWithin count now).2.host.queue = [])
    (hThin : (thin.drainWithin fewer now).2.host.queue = []) :
    Matches stale (full.drainWithin count now).2 (thin.drainWithin fewer now).2 := by
  -- A stale callback costs the full queue one step and the other none.
  induction count generalizing full thin fewer with
  | zero =>
    have hEmpty : thin.host.queue = [] := (hFull ▸ h.queue).nil_left
    rwa [drainWithin_nil hEmpty]
  | succ count ih =>
    have hQueue := h.queue
    have hBare := h.bare
    generalize hRest : thin.host.queue = rest at hQueue
    cases hCallbacks : full.host.queue with
    | nil =>
      rw [hCallbacks] at hQueue
      rw [drainWithin_nil hCallbacks, drainWithin_nil (hRest.trans hQueue.nil_left)]
      exact h
    | cons callback queue =>
      rw [drainWithin_cons hCallbacks] at hFull ⊢
      have hLater : ∀ other, stale other →
          ((full.requeue queue).handle callback now).Ignores other :=
        fun other hOther => (ignores_handle _ callback now).mpr (hStale other hOther)
      rw [hCallbacks] at hQueue
      cases hQueue with
      | keep _ hQueue =>
        cases fewer with
        | zero =>
          have hNone : thin.host.queue = [] := hThin
          cases hRest.symm.trans hNone
        | succ fewer =>
          rename_i rest
          rw [drainWithin_cons hRest] at hThin ⊢
          have hTaken : Matches stale (full.requeue queue) (thin.requeue rest) := ⟨hBare, hQueue⟩
          refine ih (hTaken.map (f := (handle · callback now)) ?_) hLater hFull hThin
          exact fun _ _ switch => handle_veiled switch (spares_backlog ..) callback now
      | drop hDropped hQueue =>
        obtain ⟨line, hEq⟩ := handle_ignored (full.requeue queue) callback
          (hStale callback hDropped) now
        rw [hEq] at hFull hLater ⊢
        have hTaken : Matches stale (full.requeue queue) thin := ⟨hBare, hRest ▸ hQueue⟩
        exact ih (hTaken.write line) hLater hFull hThin

omit [Platform σ] in
theorem Matches.consistent {order : PreferredOrder} (h : Matches stale full thin)
    (hConsistent : Consistent order full) : Consistent order thin :=
  hConsistent.congr h.phase (congrArg Switch.tracker h.bare).symm
    (congrArg Switch.wired h.bare).symm (congrArg Switch.route h.bare).symm
    (congrArg Switch.selector h.bare).symm

omit [Platform σ] in
theorem Matches.tidy {config : SwitchConfig} (h : Matches stale full thin)
    (hTidy : Tidy config full) : Tidy config thin := by
  have hBare := h.bare.symm
  refine hTidy.congr (fun hRunning => ?_) h.session (congrArg (·.tracker.timeout) hBare)
    (congrArg (·.tracker.listening) hBare) (congrArg (·.wired.registered) hBare)
    ⟨_, _, congrArg (·.route) hBare⟩ (congrArg (·.host.registrations) hBare)
  rwa [h.phase]

theorem Matches.drain {order : PreferredOrder} (h : Matches stale full thin)
    (hStale : ∀ callback, stale callback → full.Ignores callback)
    (hConsistent : Consistent order full) (now : Nat) :
    Matches stale (full.drain now).2 (thin.drain now).2 :=
  h.drainWithin hStale (hConsistent.queue_drain now) ((h.consistent hConsistent).queue_drain now)

theorem Matches.pumped {order : PreferredOrder} (h : Matches stale full thin)
    (hStale : ∀ callback, stale callback → full.Ignores callback)
    (hConsistent : Consistent order full) (now : Nat) :
    Matches stale (full.pumped now) (thin.pumped now) :=
  (h.drain hStale hConsistent now).map (f := (poll · now))
    fun _ _ switch => poll_veiled switch (spares_backlog ..) now

/-- Whatever a new session finds waiting, it takes up the callbacks that are not stale. -/
theorem Matches.absorb (h : Matches stale full thin)
    (hStale : ∀ callback, stale callback → full.Ignores callback) :
    Matches stale full.absorb thin.absorb := by
  have hTaken : Matches stale (full.requeue []) (thin.requeue []) := ⟨h.bare, .nil⟩
  have hQueue := h.queue
  rw [Switch.absorb, Switch.absorb]
  change Matches stale (full.host.queue.foldl _ (full.requeue []))
    (thin.host.queue.foldl _ (thin.requeue []))
  replace hStale : ∀ callback, stale callback → (full.requeue []).Ignores callback := hStale
  generalize full.host.queue = queue at hQueue ⊢
  generalize thin.host.queue = rest at hQueue ⊢
  generalize full.requeue [] = begun at *
  generalize thin.requeue [] = begun' at *
  induction hQueue generalizing begun begun' with
  | nil => exact hTaken
  | keep callback _ ih =>
    refine ih _ ?_ _ (hTaken.map (f := fun switch => (switch.applyCallback callback).2) ?_)
    · intro other hOther
      rw [Ignores, session_applyCallback, phase_applyCallback]
      exact hStale other hOther
    · intro waiting log switch
      rw [applyCallback_veiled]
  | drop hDropped _ ih =>
    obtain ⟨line, hEq⟩ := applyCallback_ignored (hStale _ hDropped)
    rw [List.foldl_cons, hEq]
    exact ih (begun.write line) hStale begun' (hTaken.write line)

/-! ## Every operation goes as if no stale callback waited -/

def Past (switch : Switch σ) (callback : Callback) : Prop := callback.session < switch.session

theorem Matches.start (h : Matches full.Past full thin)
    (listener : Option Nat) (now : Nat) :
    Matches full.Past (full.start listener now) (thin.start listener now) := by
  rw [Switch.start, Switch.start, h.phase]
  split
  · exact h.map (f := (Switch.write · _)) fun _ _ switch => write_veiled switch _
  have hEntered := ((h.map (f := (enter · listener)) fun _ _ switch =>
    enter_veiled switch listener).map fun waiting log switch =>
      startBluetooth_veiled switch (.inl (Veil.clear_backlog waiting log))).map
        fun _ _ switch => startWired_veiled switch
  have hBegun := hEntered.absorb fun callback hPast => by
    refine .inl (Nat.ne_of_lt ?_)
    rw [session_startWired, session_startBluetooth, session_enter]
    exact Nat.lt_succ_of_lt hPast
  refine ((hBegun.map (f := (recompute · [])) ?_).map (f := (applyRoute · now)) ?_).map
    fun _ _ switch => notifyDevices_veiled switch
  · exact fun _ _ switch => recompute_veiled switch []
  · exact fun _ _ switch => applyRoute_veiled switch (spares_backlog ..) now

theorem leave_backlog (waiting : List Callback) (log : List LogLine) (switch : Switch σ) :
    (switch.veiled (.backlog waiting log)).leave = switch.leave.veiled (.backlog [] log) := by
  simp only [leave, veiled, Tracker.stop_hide, WiredTracker.stop_hide]
  rfl

theorem Matches.leave (h : Matches stale full thin) : Matches stale full.leave thin.leave := by
  have hFull := leave_backlog full.host.queue full.host.log full.bare
  have hThin := leave_backlog thin.host.queue thin.host.log thin.bare
  rw [veiled_bare] at hFull hThin
  refine ⟨?_, .nil⟩
  rw [hFull, hThin, ← h.bare]
  rfl

theorem Matches.stop (h : Matches stale full thin) : Matches stale full.stop thin.stop := by
  rw [Switch.stop, Switch.stop, h.phase]
  split
  · exact h
  · refine ((h.map (f := (Switch.write · _)) ?_).map fun _ _ switch => deactivateRoute_veiled switch).leave
    exact fun _ _ switch => write_veiled switch _

/-- An operation that does not take single callbacks does the same to both. -/
theorem Matches.perform {order : PreferredOrder} (h : Matches full.Past full thin)
    (hConsistent : Consistent order full) {operation : Operation} (hOther : operation ≠ .next)
    (now : Nat) : Matches full.Past (full.perform operation now) (thin.perform operation now) := by
  have hPumped := h.pumped (fun callback hPast => .inl (Nat.ne_of_lt hPast)) hConsistent now
  cases operation with
  | start listener => exact h.start listener now
  | stop => exact h.stop
  | activate =>
    refine hPumped.map (f := fun switch => (switch.engage now).2) ?_
    intro waiting log switch
    rw [engage_veiled _ (spares_backlog ..)]
  | deactivate => exact hPumped.map fun _ _ switch => disengage_veiled switch
  | select device =>
    exact hPumped.map (f := (choose · device now))
      fun _ _ switch => choose_veiled switch (spares_backlog ..) device now
  | clearSelection =>
    exact hPumped.map (f := (unchoose · now))
      fun _ _ switch => unchoose_veiled switch (spares_backlog ..) now
  | hostResumed =>
    have hResumable : thin.resumable = full.resumable := (congrArg resumable h.bare).symm
    have hSame : full.resume.session = full.session := by
      rw [resume]
      split
      · exact session_startBluetooth _
      · rfl
    rw [Switch.perform, Switch.perform, hostResumed, hostResumed, hResumable]
    split
    · refine (h.map fun waiting log switch => resume_veiled switch
        (.inl (Veil.clear_backlog waiting log))).pumped (fun callback hPast => .inl ?_) hConsistent.resume now
      rw [hSame]
      exact Nat.ne_of_lt hPast
    · exact h
  | pump => exact hPumped
  | poll => exact h.map (f := (poll · now)) fun _ _ switch =>
      poll_veiled switch (spares_backlog ..) now
  | next => exact absurd rfl hOther
  | _ => exact h.map (f := (Switch.perform · _ now)) fun waiting log switch => rfl

/-! ## Whole runs -/

/-- Whether a move does no more than bring a callback of a session that is over, or take one from the
queue. -/
def idles (switch : Switch σ) : Move σ → Bool
  | .callback callback => decide (callback.session < switch.session)
  | .operation .next _ => switch.host.queue.head?.any (·.session < switch.session)
  | _ => false

def purge (switch : Switch σ) : List (Move σ) → List (Move σ)
  | [] => []
  | move :: moves =>
    let rest := (switch.move move).purge moves
    if switch.idles move then rest else move :: rest

/-- The first run goes on, and the second waits for it. -/
theorem Matches.idle (h : Matches full.Past full thin) (hCurrent : thin.Current) {move : Move σ}
    (hIdle : full.idles move) : Matches full.Past (full.move move) thin := by
  cases move with
  | callback callback =>
    have hPast : callback.session < full.session := by simpa [idles] using hIdle
    have hQueue := h.queue.append (.drop hPast .nil)
    rw [List.append_nil] at hQueue
    exact ⟨h.bare, hQueue⟩
  | operation operation now =>
    cases operation with
    | next =>
      have hQueue := h.queue
      have hBare := h.bare
      cases hCallbacks : full.host.queue with
      | nil => simp [idles, hCallbacks] at hIdle
      | cons callback queue =>
        have hPast : callback.session < full.session := by simpa [idles, hCallbacks] using hIdle
        obtain ⟨line, hEq⟩ := handle_ignored (full.requeue queue) callback
          (.inl (Nat.ne_of_lt hPast)) now
        generalize hRest : thin.host.queue = rest at hQueue
        rw [hCallbacks] at hQueue
        rw [Switch.move, perform_next_cons hCallbacks, hEq]
        cases hQueue with
        | keep _ hQueue =>
          -- What waits at the second is of the present session.
          have hOwn := hCurrent callback (hRest ▸ List.mem_cons_self)
          rw [h.session] at hOwn
          exact absurd hPast (Nat.not_lt_of_le hOwn)
        | drop _ hQueue =>
          have hTaken : Matches full.Past (full.requeue queue) thin := ⟨hBare, hRest ▸ hQueue⟩
          exact hTaken.write line
    | _ => cases hIdle
  | _ => cases hIdle

theorem Matches.next (h : Matches full.Past full thin) {now : Nat}
    (hBusy : full.idles (.operation .next now) = false) :
    Matches full.Past (full.perform .next now) (thin.perform .next now) := by
  have hQueue := h.queue
  have hBare := h.bare
  generalize hRest : thin.host.queue = rest at hQueue
  cases hCallbacks : full.host.queue with
  | nil =>
    rw [hCallbacks] at hQueue
    rw [perform_next_nil hCallbacks, perform_next_nil (hRest.trans hQueue.nil_left)]
    exact h
  | cons callback queue =>
    rw [hCallbacks] at hQueue
    cases hQueue with
    | keep _ hQueue =>
      rename_i rest
      have hTaken : Matches full.Past (full.requeue queue) (thin.requeue rest) := ⟨hBare, hQueue⟩
      rw [perform_next_cons hCallbacks, perform_next_cons hRest]
      exact hTaken.map (f := (handle · callback now))
        fun _ _ switch => handle_veiled switch (spares_backlog ..) callback now
    | drop hPast _ =>
      have hFirst : ¬callback.session < full.session := by simpa [idles, hCallbacks] using hBusy
      exact absurd hPast hFirst

theorem Matches.move {order : PreferredOrder} (h : Matches full.Past full thin)
    (hConsistent : Consistent order full) {move : Move σ} (hBusy : full.idles move = false) :
    Matches full.Past (full.move move) (thin.move move) := by
  cases move with
  | operation operation now =>
    by_cases hNext : operation = .next
    · subst hNext
      exact h.next hBusy
    · exact h.perform hConsistent hNext now
  | callback callback =>
    refine h.map (f := (receive · callback)) fun waiting log switch => ?_
    simp [receive, veiled]
  | platform change =>
    exact h.map (f := (Switch.move · (.platform change))) fun waiting log switch => rfl
  | focus change =>
    refine h.map (f := (Switch.move · (.focus change))) fun waiting log switch => ?_
    cases hListener : switch.host.focusListener <;>
      simp [Switch.move, veiled, Veil.backlog, Host.changeFocus, hListener, Host.notify]

theorem Current.move {order : PreferredOrder} {config : SwitchConfig} (h : switch.Current)
    (hConsistent : Consistent order switch) (hTidy : Tidy config switch) {move : Move σ}
    (hLive : ∀ callback, move = .callback callback → switch.session ≤ callback.session) :
    (switch.move move).Current := by
  cases move with
  | operation operation now => exact h.perform hConsistent hTidy operation now
  | callback callback =>
    intro other hMem
    rcases List.mem_append.mp hMem with hOld | hNew
    · exact h other hOld
    · rw [List.mem_singleton.mp hNew]
      exact hLive callback rfl
  | platform change => exact h
  | focus change =>
    have hQueue : (switch.host.changeFocus change).queue = switch.host.queue := by
      rw [Host.changeFocus]
      split <;> rfl
    intro callback hMem
    exact h callback (hQueue ▸ hMem)

/-- A run without stale callbacks keeps up with the run that they come in to. -/
theorem Matches.run {order : PreferredOrder} {config : SwitchConfig}
    (h : Matches full.Past full thin) (hConsistent : Consistent order full)
    (hTidy : Tidy config full) (hCurrent : thin.Current) (moves : List (Move σ)) :
    (full.run moves).bare = (thin.run (full.purge moves)).bare := by
  induction moves generalizing full thin with
  | nil => exact h.bare
  | cons move moves ih =>
    have hGrown : ∀ callback, full.Past callback → (full.move move).Past callback := by
      intro callback hPast
      cases move with
      | operation operation now =>
        exact Nat.lt_of_lt_of_le hPast (hConsistent.session_perform hTidy operation now)
      | _ => exact hPast
    have hAfter := hConsistent.move move
    have hTidyAfter := hTidy.move hConsistent move
    rw [purge]
    cases hIdle : full.idles move with
    | true => exact ih ((h.idle hCurrent hIdle).mono hGrown) hAfter hTidyAfter hCurrent
    | false =>
      have hLive : ∀ callback, move = .callback callback → thin.session ≤ callback.session := by
        rintro callback rfl
        rw [h.session]
        simpa [idles] using hIdle
      exact ih ((h.move hConsistent hIdle).mono hGrown) hAfter hTidyAfter
        (hCurrent.move (h.consistent hConsistent) (h.tidy hTidy) hLive)

/-! ## While the switch is stopped -/

theorem bare_drainWithin_of_stopped (h : switch.phase = .stopped) (count now : Nat) :
    (switch.drainWithin count now).2.bare = switch.bare := by
  induction count generalizing switch with
  | zero => rfl
  | succ count ih =>
    cases hQueue : switch.host.queue with
    | nil => rw [drainWithin_nil hQueue]
    | cons callback rest =>
      obtain ⟨line, hEq⟩ := handle_ignored (switch.requeue rest) callback (.inr h) now
      rw [drainWithin_cons hQueue, hEq]
      have hLater : ((switch.requeue rest).write line).phase = .stopped := h
      exact (ih hLater).trans (bare_write _ line)

theorem Consistent.bare_pumped_of_stopped {order : PreferredOrder} (h : Consistent order switch)
    (hStopped : switch.phase = .stopped) (now : Nat) : (switch.pumped now).bare = switch.bare := by
  have hDrained : (switch.drain now).2.bare = switch.bare :=
    bare_drainWithin_of_stopped hStopped _ now
  have hDeaf : (switch.drain now).2.tracker.listening = false :=
    (congrArg (·.tracker.listening) hDrained).trans (h.stopped hStopped).1
  have hPumped : switch.pumped now = (switch.drain now).2 := by
    change (switch.drain now).2.poll now = (switch.drain now).2
    rw [Switch.poll, hDeaf]
    rfl
  rw [hPumped, hDrained]

end Switch

def Operation.wakes : Operation → Bool
  | start _ | setDeviceListener _ | setHeadsetListener _ | setFocusListener _ | setLogging _ => true
  | _ => false

namespace Switch

variable {σ : Type} [Platform σ] {switch : Switch σ}

theorem Consistent.bare_perform_of_stopped {order : PreferredOrder} (h : Consistent order switch)
    (hStopped : switch.phase = .stopped) {operation : Operation} (hAsleep : operation.wakes = false)
    (now : Nat) : (switch.perform operation now).bare = switch.bare := by
  have hPumped := h.bare_pumped_of_stopped hStopped now
  have hPhase : (switch.pumped now).phase = .stopped :=
    (congrArg Switch.phase hPumped).trans hStopped
  cases operation with
  | stop => rw [perform, Switch.stop, if_pos hStopped]
  | activate => rwa [perform, activate, Switch.engage, if_pos hPhase]
  | deactivate =>
    rw [perform, deactivate, Switch.disengage, if_pos (by simp [hPhase])]
    exact hPumped
  | select device =>
    rw [perform, select, Switch.choose, if_pos hPhase]
    exact (bare_write _ _).trans hPumped
  | clearSelection =>
    rw [perform, clearSelection, Switch.unchoose, if_pos (.inl hPhase)]
    exact hPumped
  | hostResumed => simp [perform, hostResumed, resumable, hStopped]
  | pump => exact hPumped
  | poll => simp [perform, Switch.poll, (h.stopped hStopped).1]
  | next =>
    cases hQueue : switch.host.queue with
    | nil => rw [perform_next_nil hQueue]
    | cons callback rest =>
      obtain ⟨line, hEq⟩ := handle_ignored (switch.requeue rest) callback (.inr hStopped) now
      rw [perform_next_cons hQueue, hEq, bare_write]
      rfl
  | _ => cases hAsleep

/-- Whatever happened before: the queue is drained as if no callback of another session waited in it,
and everything went as if no callback of a session that was over had ever come in. While the switch
is stopped no callback changes anything, and only a start and the settings do. -/
theorem stale_callbacks_inert (config : SwitchConfig) (platform : σ) (moves : List (Move σ)) :
    let begun := create config platform
    let switch := begun.run moves
    (∀ now,
      let drained := (switch.drain now).2
      let own := switch.host.queue.filter (·.session = switch.session)
      let drained' := ((switch.requeue own).drain now).2
      drained.bare = drained'.bare ∧ drained.host.queue = [] ∧ drained'.host.queue = []) ∧
    switch.bare = (begun.run (begun.purge moves)).bare ∧
    (switch.phase = .stopped →
      (∀ callback now, (switch.receive callback).bare = switch.bare ∧
        (switch.handle callback now).bare = switch.bare) ∧
      ∀ operation now, operation.wakes = false →
        (switch.perform operation now).bare = switch.bare) := by
  intro begun switch
  have hConsistent : Consistent config.order switch := consistent_run config platform moves
  refine ⟨fun now => ?_, ?_, fun hStopped => ⟨fun callback now => ⟨rfl, ?_⟩, ?_⟩⟩
  · intro drained own drained'
    have hOwn : Matches (·.session ≠ switch.session) switch (switch.requeue own) := by
      exact ⟨rfl, (Thinned.filter _ _).mono fun callback hOther => of_decide_eq_false hOther⟩
    have hDrained := hOwn.drain (fun callback hOther => .inl hOther) hConsistent now
    exact ⟨hDrained.bare, hConsistent.queue_drain now,
      (hOwn.consistent hConsistent).queue_drain now⟩
  · have hSame : Matches begun.Past begun begun := ⟨rfl, .refl _⟩
    have hNone : begun.host.queue = [] := Host.queue_writeAll _ _
    have hCurrent : begun.Current := by simp [Current, hNone]
    exact hSame.run (consistent_create config platform) (tidy_create config platform) hCurrent moves
  · obtain ⟨line, hEq⟩ := handle_ignored switch callback (.inr hStopped) now
    rw [hEq, bare_write]
  · intro operation now hAsleep
    exact hConsistent.bare_perform_of_stopped hStopped hAsleep now

/-- A callback that comes after its session has ended is taken from the queue without a trace. -/
theorem stale_callbacks_inert_late :
    let config : SwitchConfig := ⟨.usual, usualLinkTimeout, true, false⟩
    let late : Callback := ⟨1, .bluetooth (.connected ⟨"Buds", "AA"⟩)⟩
    let moves : List (Move Handset) := [.operation (.start (some 1)) 0, .callback late,
      .operation .activate 0, .operation .stop 0, .callback late]
    let switch := (create config Handset.fresh).run moves
    switch.phase = .stopped ∧ switch.host.queue = [late] ∧ Operation.pump.wakes = false ∧
      (switch.pumped 0).bare = switch.bare := by
  intro config late moves
  simp only
  have hStopped : ((create config Handset.fresh).run moves).phase = .stopped ∧
      ((create config Handset.fresh).run moves).host.queue = [late] := by decide
  have hAsleep : Operation.pump.wakes = false := rfl
  obtain ⟨_, _, hInert⟩ := stale_callbacks_inert config Handset.fresh moves
  exact ⟨hStopped.1, hStopped.2, hAsleep, (hInert hStopped.1).2 .pump 0 hAsleep⟩

end Switch

end CallAudio
