import CallAudio.Proofs.Agreement
import CallAudio.Proofs.Notices
import CallAudio.Proofs.Requests

/-! # Attempts to route

Wherever routing begins, it tries the selected device, and after each headset that refuses the best
one that is left, until a device can be heard. Each headset is asked at most once, whatever the
platform answers, and each that refuses is reported once and marked as failed.
-/

namespace CallAudio

def Command.request? : Command → Option String
  | enableLink address => some address
  | _ => none

theorem Command.request?_eq_none {command : Command} (h : command.isRequest = false) :
    command.request? = none := by
  cases command <;> first | rfl | cases h

def Host.requests {σ : Type} (host : Host σ) : List String :=
  host.commands.filterMap Command.request?

variable {σ : Type} [Platform σ]

section Requests

variable {before after : Host σ}

theorem Issued.requests {issued : List Command} (h : Issued issued before after) :
    after.requests = before.requests ++ issued.filterMap Command.request? := by
  rw [Host.requests, h.commands, List.filterMap_append]
  rfl

theorem AsksNobody.requests (h : AsksNobody before after) : after.requests = before.requests := by
  obtain ⟨issued, hIssued, hOther⟩ := h
  have hNone : issued.filterMap Command.request? = [] :=
    List.filterMap_eq_nil_iff.mpr fun command hMem => Command.request?_eq_none (hOther command hMem)
  rw [hIssued.requests, hNone, List.append_nil]

theorem AsksFor.requests {address : String} {refused : Bool}
    (h : AsksFor address refused before after) :
    after.requests = before.requests ++ [address] := by
  obtain ⟨middle, hNobody, _, hIssued⟩ := h
  rw [hIssued.requests, hNobody.requests]
  rfl

theorem AsksFor.silently {address : String} {refused : Bool} {middle : Host σ}
    (h : AsksFor address refused before middle) (hSilent : Issued [] middle after) :
    AsksFor address refused before after := by
  obtain ⟨asking, hNobody, hAnswer, hIssued⟩ := h
  exact ⟨asking, hNobody, hAnswer, (hIssued.trans hSilent).cast (List.append_nil _)⟩

end Requests

namespace Switch

inductive RoutesFrom (switch : Switch σ) : Switch σ → Prop
  | here : switch.phase ≠ .stopped → RoutesFrom switch switch
  | start (listener : Option Nat) : switch.phase = .stopped →
    RoutesFrom switch ((switch.enter listener).startBluetooth.startWired.absorb.recompute [])
  | callback (callback : Callback) (rest : List Callback) :
    switch.host.queue = callback :: rest →
    ((switch.requeue rest).applyCallback callback).1 = true →
    RoutesFrom switch (((switch.requeue rest).applyCallback callback).2.recompute [])
  | deadline (now : Nat) (event : HeadsetEvent) (tracker : Tracker) (host : Host σ) :
    switch.tracker.listening = true →
    switch.tracker.checkTimeout now switch.host = (some event, tracker, host) →
    RoutesFrom switch
      (((({ switch with tracker, host } : Switch σ).notifyHeadset event).yieldFailed
        event).recompute [])
  | engage (route : Route) (host : Host σ) : switch.phase ≠ .stopped →
    switch.route.activate switch.host = (.ok (), route, host) →
    RoutesFrom switch { switch with phase := .activated, route, host }
  | choose (device : Device) : switch.phase ≠ .stopped → device ∈ switch.selector.available →
    RoutesFrom switch ((switch.pinTo device).recompute [])
  | unchoose : switch.phase ≠ .stopped →
    RoutesFrom switch ({ switch with selector := switch.selector.clearPin }.recompute [])

variable {order : PreferredOrder} {before after switch : Switch σ} {now : Nat}

theorem RoutesFrom.poised (h : switch.RoutesFrom after) (hConsistent : Consistent order switch) :
    after.Poised := by
  cases h with
  | here hRunning =>
    exact ⟨hConsistent.sound, hConsistent.settled hRunning, hConsistent.pending⟩
  | start listener hStopped =>
    obtain ⟨hSteady, hUnspoiled, _⟩ := hConsistent.begin hStopped listener
    exact hSteady.poised hUnspoiled
  | callback callback rest =>
    have hTaken : Consistent order (switch.requeue rest) := hConsistent.requeue rest
    exact hTaken.poised_applyCallback callback
  | deadline now event tracker host hListening hLate =>
    have hRunning : switch.phase ≠ .stopped := by
      intro hStopped
      exact absurd (hListening.symm.trans (hConsistent.stopped hStopped).1) (by decide)
    rcases checkTimeout_cases hConsistent.sound now switch.host with
      hQuiet | ⟨headset, since, late, hLink, hFound, hSame⟩
    · cases hQuiet.symm.trans hLate
    · cases hSame.symm.trans hLate
      obtain ⟨hSteady, hUnspoiled, _⟩ := hConsistent.yield hRunning hLink hFound host
      exact hSteady.poised hUnspoiled
  | engage route host hRunning hTaken =>
    obtain ⟨_, hRouted, _⟩ := activate_eq switch.route switch.host
    rw [hTaken] at hRouted
    refine ⟨hConsistent.sound, (hConsistent.settled hRunning).congr rfl rfl rfl rfl, ?_⟩
    exact hRouted.symm ▸ hConsistent.pending
  | choose device hRunning hMem =>
    exact (hConsistent.toSteady.pinTo hRunning device).poised
      (unspoiled_pinTo hConsistent.sound hMem)
  | unchoose hRunning =>
    have hFreed : Steady order { switch with selector := switch.selector.clearPin } :=
      hConsistent.toSteady.reselect hRunning rfl rfl rfl rfl
    exact hFreed.poised (unspoiled_of_free rfl)

def alarms (switch : Switch σ) (headsets : List Headset) : List Notice :=
  switch.listeners.headset.toList.flatMap fun listener =>
    headsets.map fun headset => .headset listener ⟨.activationError, .bluetoothHeadset headset⟩

/-- The selected headset refuses the link and gives way. The next to be tried is the first device
that neither failed nor was rejected. -/
structure Rejects (now : Nat) (rejected : List Device) (before : Switch σ) (headset : Headset)
    (after : Switch σ) : Prop where
  step : ∃ error, (before.routeOnce now).1 = .error error ∧
    after = ((before.routeOnce now).2.write (unroutedLine (.bluetoothHeadset headset) error)).fallBack
      (.bluetoothHeadset headset) (rejected ++ [.bluetoothHeadset headset])
  selected : before.selector.selected = some (.bluetoothHeadset headset)
  connected : headset ∈ before.tracker.headsets
  untried : .bluetoothHeadset headset ∉ rejected
  unmarked : headset.address ∉ before.tracker.failed
  refused : AsksFor headset.address true before.host after.host
  notices : after.host.notices = before.host.notices ++ before.alarms [headset]
  marked : after.tracker.failed = headset.address :: before.tracker.failed
  reroutes : before.Reroutes after
  unpinned : after.selector.pinned = false
  next : after.selector.selected = after.selector.available.find? fun device =>
    !after.fails device && device ∉ rejected ++ [.bluetoothHeadset headset]

/-- Attempts from the first switch to the last, which all fail, and which headsets they try; the
attempt at the last switch succeeds. -/
inductive Fallback (now : Nat) : List Device → Switch σ → List Headset → Switch σ → Prop
  | stop {rejected : List Device} {switch : Switch σ} :
    (switch.routeOnce now).1 = .ok () → Fallback now rejected switch [] switch
  | reject {rejected : List Device} {before after stop : Switch σ} {headset : Headset}
    {headsets : List Headset} : Rejects now rejected before headset after →
    Fallback now (rejected ++ [.bluetoothHeadset headset]) after headsets stop →
    Fallback now rejected before (headset :: headsets) stop

theorem issued_fallBack (switch : Switch σ) (device : Device) (rejected : List Device) :
    Issued [] switch.host (switch.fallBack device rejected).host :=
  ((switch.unpin device).issued_notifyHeadset _).trans (.writeAll _ _)

omit [Platform σ] in
theorem alarms_singleton (switch : Switch σ) (headset : Headset) :
    switch.alarms [headset] = switch.listeners.headset.toList.map fun listener =>
      .headset listener ⟨.activationError, .bluetoothHeadset headset⟩ := by
  rw [alarms]
  cases switch.listeners.headset <;> rfl

omit [Platform σ] in
theorem alarms_cons (switch : Switch σ) (headset : Headset) (headsets : List Headset) :
    switch.alarms (headset :: headsets) = switch.alarms [headset] ++ switch.alarms headsets := by
  rw [alarms, alarms, alarms]
  cases switch.listeners.headset <;> simp

omit [Platform σ] in
theorem notices_notifyFailed (switch : Switch σ) (headset : Headset) :
    (switch.notifyHeadset ⟨.activationError, .bluetoothHeadset headset⟩).host.notices =
      switch.host.notices ++ switch.alarms [headset] := by
  rw [alarms_singleton, notifyHeadset, Listeners.headsetEvent]
  cases switch.listeners.headset with
  | none => exact (List.append_nil _).symm
  | some listener => simp only [Host.notify, Host.notices_write, Option.toList_some, List.map_cons,
      List.map_nil]

theorem notices_fallBack (switch : Switch σ) (headset : Headset) (rejected : List Device) :
    (switch.fallBack (.bluetoothHeadset headset) rejected).host.notices =
      switch.host.notices ++ switch.alarms [headset] :=
  (Host.notices_writeAll _ _).trans (notices_notifyFailed _ headset)

theorem pinned_fallBack {device : Device} (h : switch.selector.selected = some device)
    (rejected : List Device) : (switch.fallBack device rejected).selector.pinned = false := by
  have hFree : (switch.unpin device).selector.pinned = false := pinned_unpin h
  exact Selector.recompute_free hFree

/-- An attempt that failed leaves a mark on the selected headset, which was asked and refused. -/
theorem Poised.attempt_failed (h : switch.Poised) {error : RoutingError}
    (hError : (switch.routeOnce now).1 = .error error) {headset : Headset}
    (hSelected : switch.selector.selected = some (.bluetoothHeadset headset)) (line : LogLine) :
    let tried := (switch.routeOnce now).2.write line
    AsksFor headset.address true switch.host tried.host ∧ switch.Reroutes tried ∧
      tried.host.notices = switch.host.notices ∧
        tried.tracker.failed = headset.address :: switch.tracker.failed := by
  intro tried
  have hReroutes : switch.Reroutes tried :=
    (reroutes_routeOnce switch now).trans (reroutes_write _ line)
  have hQuiet : (switch.routeOnce now).2.host.notices = switch.host.notices :=
    Route.notices_routeTo _ _ _ _ _
  obtain ⟨other, hOther, _, _, hFailed⟩ := Route.routeTo_error (fun _ => h.selected_known) hError
  cases hSelected.symm.trans hOther
  have hUnmarked := (h.settled.headset_mem hSelected).2
  refine ⟨?_, hReroutes, (Host.notices_write _ _).trans hQuiet, hFailed.trans (if_neg hUnmarked)⟩
  rcases h.attempt_routeOnce now with ⟨hOk, _⟩ | ⟨other, hOther, hAttempt⟩
  · cases hOk.symm.trans hError
  · cases hSelected.symm.trans hOther
    rw [hError] at hAttempt
    cases hAttempt with
    | refused _ hAsks => exact hAsks.silently (.write _ line)

omit [Platform σ] in
/-- Where nothing is pinned and all that was rejected has failed, the selected device is the first
that neither failed nor was rejected. -/
theorem Poised.selected_eq_find? (h : switch.Poised) (hFree : switch.selector.pinned = false)
    {rejected : List Device} (hFails : ∀ device ∈ rejected, switch.fails device = true) :
    switch.selector.selected = switch.selector.available.find? fun device =>
      !switch.fails device && device ∉ rejected := by
  rw [h.settled.best hFree]
  congr 1
  funext device
  cases hFailing : switch.fails device with
  | true => rfl
  | false =>
    have hOther : device ∉ rejected := by
      intro hOld
      exact absurd ((hFails device hOld).symm.trans hFailing) (by decide)
    simp only [hOther, Bool.not_false, not_false_eq_true, decide_true, Bool.and_true]

theorem Poised.rejects (h : switch.Poised) {error : RoutingError}
    (hError : (switch.routeOnce now).1 = .error error) {rejected : List Device}
    (hRejected : ∀ device ∈ rejected, switch.fails device = true) :
    ∃ headset after, Rejects now rejected switch headset after ∧ after.Poised ∧
      after.unfailed.length < switch.unfailed.length ∧
        ∀ device ∈ rejected ++ [.bluetoothHeadset headset], after.fails device = true := by
  obtain ⟨headset, hSelected, _⟩ := Route.routeTo_error (fun _ => h.selected_known) hError
  obtain ⟨device, hDevice, hUntried, hNext, _, hFewer, hFails⟩ := h.routeOnce_error hError hRejected
  cases hSelected.symm.trans hDevice
  obtain ⟨hMem, hUnmarked⟩ := h.settled.headset_mem hSelected
  obtain ⟨hRefused, hReroutes, hQuiet, hMarked⟩ :=
    h.attempt_failed hError hSelected (unroutedLine (.bluetoothHeadset headset) error)
  have hHeld : ((switch.routeOnce now).2.write
      (unroutedLine (.bluetoothHeadset headset) error)).selector.selected =
        some (.bluetoothHeadset headset) := hSelected
  generalize hTried : (switch.routeOnce now).2.write
    (unroutedLine (.bluetoothHeadset headset) error) = tried at *
  have hUnpinned := pinned_fallBack hHeld (rejected ++ [.bluetoothHeadset headset])
  refine ⟨headset, _, ?_, hNext, hFewer, hFails⟩
  refine
    { step := ⟨error, hError, by rw [hTried]⟩
      selected := hSelected
      connected := hMem
      untried := hUntried
      unmarked := hUnmarked
      refused := hRefused.silently (issued_fallBack _ _ _)
      notices := ?_
      marked := hMarked
      reroutes := hReroutes.trans (reroutes_fallBack tried _ _)
      unpinned := hUnpinned
      next := hNext.selected_eq_find? hUnpinned hFails }
  rw [notices_fallBack, hQuiet, alarms_singleton, alarms_singleton, hReroutes.listeners]

/-! ## From the first attempt to the last -/

variable {rejected : List Device} {headsets : List Headset} {stop : Switch σ}

theorem Poised.fallback (h : switch.Poised) (now : Nat)
    (hRejected : ∀ device ∈ rejected, switch.fails device = true) :
    ∃ headsets stop, Fallback now rejected switch headsets stop ∧ stop.Poised ∧
      headsets.length ≤ switch.unfailed.length := by
  -- An attempt that fails leaves one headset less to try.
  generalize hCount : switch.unfailed.length = count
  induction count using Nat.strong_induction_on generalizing switch rejected with
  | h count ih =>
    cases hResult : (switch.routeOnce now).1 with
    | ok => exact ⟨[], switch, .stop hResult, h, Nat.zero_le _⟩
    | error error =>
      obtain ⟨headset, after, hRejects, hAfter, hFewer, hFails⟩ := h.rejects hResult hRejected
      obtain ⟨headsets, stop, hRest, hStop, hLength⟩ :=
        ih after.unfailed.length (hCount ▸ hFewer) hAfter hFails rfl
      refine ⟨headset :: headsets, stop, .reject hRejects hRest, hStop, ?_⟩
      rw [List.length_cons]
      omega

namespace Fallback

theorem succeeds (h : Fallback now rejected switch headsets stop) :
    (stop.routeOnce now).1 = .ok () := by
  induction h with
  | stop hOk => exact hOk
  | reject _ _ ih => exact ih

theorem routeWithin (h : Fallback now rejected switch headsets stop) {tries : Nat}
    (hTries : headsets.length < tries) :
    switch.routeWithin tries rejected now = (stop.routeOnce now).2 := by
  induction h generalizing tries with
  | stop hOk =>
    obtain ⟨fewer, rfl⟩ := Nat.exists_eq_succ_of_ne_zero (Nat.ne_of_gt hTries)
    exact routeWithin_ok hOk
  | reject hRejects _ ih =>
    obtain ⟨fewer, rfl⟩ := Nat.exists_eq_succ_of_ne_zero (Nat.ne_of_gt (Nat.zero_lt_of_lt hTries))
    obtain ⟨error, hError, hAfter⟩ := hRejects.step
    rw [List.length_cons] at hTries
    rw [routeWithin_error hError hRejects.selected]
    simp only [if_neg hRejects.untried]
    rw [← hAfter]
    exact ih (by omega)

theorem requests (h : Fallback now rejected switch headsets stop) :
    stop.host.requests = switch.host.requests ++ headsets.map (·.address) := by
  induction h with
  | stop => exact (List.append_nil _).symm
  | reject hRejects _ ih =>
    rw [ih, hRejects.refused.requests, List.append_assoc]
    rfl

theorem notices (h : Fallback now rejected switch headsets stop) :
    stop.host.notices = switch.host.notices ++ switch.alarms headsets := by
  induction h with
  | stop =>
    rw [alarms]
    simp
  | @reject _ before after _ headset headsets hRejects _ ih =>
    have hSame : after.alarms headsets = before.alarms headsets := by
      rw [alarms, alarms, hRejects.reroutes.listeners]
    rw [ih, hRejects.notices, hSame, alarms_cons before headset headsets, List.append_assoc]

theorem failed (h : Fallback now rejected switch headsets stop) :
    stop.tracker.failed = (headsets.map (·.address)).reverse ++ switch.tracker.failed := by
  induction h with
  | stop => rfl
  | reject hRejects _ ih => simp [ih, hRejects.marked]

/-- No headset is tried that failed before, and none twice. -/
theorem distinct (h : Fallback now rejected switch headsets stop) :
    (headsets.map (·.address)).Nodup ∧
      ∀ headset ∈ headsets, headset.address ∉ switch.tracker.failed := by
  induction h with
  | stop => simp
  | reject hRejects _ ih =>
    obtain ⟨hDistinct, hUnmarked⟩ := ih
    -- The first headset is marked from now on, and those that come later are not.
    rw [hRejects.marked] at hUnmarked
    refine ⟨?_, ?_⟩
    · rw [List.map_cons, List.nodup_cons]
      refine ⟨fun hMem => ?_, hDistinct⟩
      obtain ⟨other, hOther, hSame⟩ := List.mem_map.mp hMem
      exact hUnmarked other hOther (hSame ▸ List.mem_cons_self)
    · intro other hMem
      rcases List.mem_cons.mp hMem with rfl | hLater
      · exact hRejects.unmarked
      · exact fun hFailed => hUnmarked other hLater (List.mem_cons_of_mem _ hFailed)

theorem reroutes (h : Fallback now rejected switch headsets stop) : switch.Reroutes stop := by
  induction h with
  | stop => exact .refl _
  | reject hRejects _ ih => exact hRejects.reroutes.trans ih

theorem connected (h : Fallback now rejected switch headsets stop) :
    ∀ headset ∈ headsets, headset ∈ switch.tracker.headsets := by
  induction h with
  | stop => simp
  | reject hRejects _ ih =>
    intro other hMem
    rcases List.mem_cons.mp hMem with rfl | hLater
    · exact hRejects.connected
    · rw [← hRejects.reroutes.steps.headsets.2.1]
      exact ih other hLater

theorem unpinned (h : Fallback now rejected switch headsets stop) (hTried : headsets ≠ []) :
    stop.selector.pinned = false := by
  induction h with
  | stop => exact absurd rfl hTried
  | reject hRejects hRest ih =>
    cases hRest with
    | stop => exact hRejects.unpinned
    | reject => exact ih (by simp)

end Fallback

/-- Routing that falls back from headset to headset and ends with a device that is heard. Here
`headsets` refuse one after the other, `stop` is where the last attempt is made, and `asked` are the
addresses that are asked for a link on the way. -/
structure FallsBackFairly (now : Nat) (begun last : Switch σ) (headsets : List Headset)
    (stop : Switch σ) (asked : List String) : Prop where
  attempts : Fallback now [] begun headsets stop
  bounded : ∀ tries, begun.tracker.headsets.length < tries → begun.routeWithin tries [] now = last
  ends : last = (stop.routeOnce now).2
  requests : last.host.requests = begun.host.requests ++ asked
  once : asked.Nodup
  connected : ∀ address ∈ asked, address ∈ begun.tracker.addresses
  granted : asked = headsets.map (·.address) ∨ ∃ headset,
    stop.selector.selected = some (.bluetoothHeadset headset) ∧
      AsksFor headset.address false stop.host last.host ∧
        asked = headsets.map (·.address) ++ [headset.address]
  reported : last.host.notices = begun.host.notices ++ begun.alarms headsets
  marked : ∀ headset ∈ headsets, headset.address ∈ last.tracker.failed
  unpinned : headsets ≠ [] → last.selector.pinned = false
  heard : begun.route.isRouting = true → ∃ device, last.selector.selected = some device ∧
    last.route.routed = some device ∧ last.fails device = false

theorem Poised.request_routeOnce (h : switch.Poised) (hOk : (switch.routeOnce now).1 = .ok ()) :
    AsksNobody switch.host (switch.routeOnce now).2.host ∨ ∃ headset,
      switch.selector.selected = some (.bluetoothHeadset headset) ∧
        AsksFor headset.address false switch.host (switch.routeOnce now).2.host := by
  rcases h.attempt_routeOnce now with ⟨_, hNobody⟩ | ⟨headset, hSelected, hAttempt⟩
  · exact .inl hNobody
  rw [hOk] at hAttempt
  cases hAttempt with
  | spared hNobody => exact .inl hNobody
  | granted hAsks => exact .inr ⟨headset, hSelected, hAsks⟩

/-- Who is asked on the way: the headsets that refuse, and maybe the one that does not. -/
theorem Fallback.asks (h : Fallback now [] switch headsets stop) (hStop : stop.Poised) :
    ∃ asked, (stop.routeOnce now).2.host.requests = switch.host.requests ++ asked ∧
      asked.Nodup ∧ (∀ address ∈ asked, address ∈ switch.tracker.addresses) ∧
      (asked = headsets.map (·.address) ∨ ∃ headset,
        stop.selector.selected = some (.bluetoothHeadset headset) ∧
          AsksFor headset.address false stop.host (stop.routeOnce now).2.host ∧
            asked = headsets.map (·.address) ++ [headset.address]) := by
  have hDistinct := h.distinct.1
  have hKnown : ∀ address ∈ headsets.map (·.address), address ∈ switch.tracker.addresses := by
    intro address hMem
    obtain ⟨headset, hTried, rfl⟩ := List.mem_map.mp hMem
    exact Tracker.mem_addresses (h.connected headset hTried)
  rcases hStop.request_routeOnce h.succeeds with hNobody | ⟨headset, hSelected, hAsks⟩
  · refine ⟨_, ?_, hDistinct, hKnown, .inl rfl⟩
    rw [hNobody.requests, h.requests]
  · obtain ⟨hMem, hUnmarked⟩ := hStop.settled.headset_mem hSelected
    rw [h.reroutes.steps.headsets.2.1] at hMem
    rw [h.failed, List.mem_append, not_or, List.mem_reverse] at hUnmarked
    refine ⟨_, ?_, ?_, ?_, .inr ⟨headset, hSelected, hAsks, rfl⟩⟩
    · rw [hAsks.requests, h.requests, List.append_assoc]
    · exact List.nodup_append.mpr ⟨hDistinct, List.nodup_singleton _, by
        rintro address hTried _ hLast rfl
        exact hUnmarked.1 (List.mem_singleton.mp hLast ▸ hTried)⟩
    · intro address hAddress
      rcases List.mem_append.mp hAddress with hTried | hFinal
      · exact hKnown address hTried
      · rw [List.mem_singleton.mp hFinal]
        exact Tracker.mem_addresses hMem

theorem Poised.fallsBackFairly (h : switch.Poised) (now : Nat) :
    ∃ headsets stop asked,
      FallsBackFairly now switch (switch.applyRoute now) headsets stop asked := by
  have hNone : ∀ device ∈ ([] : List Device), switch.fails device = true := by simp
  obtain ⟨headsets, stop, hFallback, hStop, hLength⟩ := h.fallback now hNone
  have hOk := hFallback.succeeds
  have hReroutes := hFallback.reroutes
  obtain ⟨hLast, hHeard, _⟩ := hStop.routeOnce_ok hOk
  have hTries : ∀ tries, switch.tracker.headsets.length < tries →
      switch.routeWithin tries [] now = (stop.routeOnce now).2 := by
    intro tries hEnough
    have hUnfailed : switch.unfailed.length ≤ switch.tracker.headsets.length :=
      List.length_filter_le _ _
    exact hFallback.routeWithin (by omega)
  have hEnds : switch.applyRoute now = (stop.routeOnce now).2 := hTries _ (Nat.lt_succ_self _)
  obtain ⟨asked, hRequests, hOnce, hConnected, hGranted⟩ := hFallback.asks hStop
  rw [hEnds]
  refine ⟨headsets, stop, asked, hFallback, hTries, rfl, hRequests, hOnce, hConnected, hGranted,
    ?_, ?_, hFallback.unpinned, ?_⟩
  · rw [← hFallback.notices]
    exact Route.notices_routeTo _ _ _ _ _
  · intro headset hTried
    rw [hStop.failed_routeOnce hOk, hFallback.failed]
    exact List.mem_append_left _ (List.mem_reverse.mpr (List.mem_map_of_mem hTried))
  · intro hRouting
    obtain ⟨device, _, hSelected, hFails⟩ := hLast.settled.selected
    have hStill : (stop.routeOnce now).2.route.isRouting = true := by
      rw [(reroutes_routeOnce stop now).isRouting, hReroutes.isRouting, hRouting]
    exact ⟨device, hSelected, (hHeard hStill).trans hSelected, hFails⟩

/-- Wherever routing begins in a session, whatever the platform answers to each request, it ends with
a device that is heard, and it asks each connected headset at most once. -/
theorem fallback_ends_fairly (config : SwitchConfig) (platform : σ) (moves : List (Move σ))
    (beats : List Beat) {begun : Switch σ}
    (hBegun : RoutesFrom (beats.foldl beat ((create config platform).run moves)) begun) (now : Nat) :
    ∃ headsets stop asked,
      FallsBackFairly now begun (begun.applyRoute now) headsets stop asked := by
  have hConsistent : Consistent config.order (beats.foldl beat ((create config platform).run moves)) :=
    List.foldlRecOn _ _ (consistent_run config platform moves) fun _ hBefore beat _ =>
      hBefore.beat beat
  exact (hBegun.poised hConsistent).fallsBackFairly now

/-- Two headsets refuse when a call begins, and the earpiece is heard. -/
theorem fallback_ends_fairly_refused :
    let config : SwitchConfig := ⟨.usual, usualLinkTimeout, true, false⟩
    let handset : Handset := { Handset.fresh with
      refusesLinks := true, connected := [⟨"Buds", "AA"⟩, ⟨"Beans", "BB"⟩] }
    let switch := (create config handset).run [.operation (.start none) 0]
    let taken := switch.route.activate switch.host
    let begun := { switch with phase := .activated, route := taken.2.1, host := taken.2.2 }
    switch.RoutesFrom begun ∧ (begun.applyRoute 0).route.routed = some .earpiece ∧
      ∃ headsets stop,
        FallsBackFairly 0 begun (begun.applyRoute 0) headsets stop ["BB", "AA"] := by
  intro config handset switch taken begun
  have hTaken : switch.route.activate switch.host = (.ok (), taken.2.1, taken.2.2) := by
    rcases (activate_eq switch.route switch.host).2.2 with ⟨hOk, _⟩ | ⟨_, _, hFree⟩
    · rw [← hOk]
    · have hHeld : (switch.route.activate switch.host).2.1.focusHeld = true := by decide
      exact absurd (hHeld.symm.trans hFree) (by decide)
  have hBegun : switch.RoutesFrom begun := .engage _ _ (by decide) hTaken
  obtain ⟨headsets, stop, asked, hFair⟩ :=
    fallback_ends_fairly config handset [.operation (.start none) 0] [] hBegun 0
  have hRequests : (begun.applyRoute 0).host.requests = begun.host.requests ++ ["BB", "AA"] := by
    decide
  obtain rfl : asked = ["BB", "AA"] :=
    List.append_cancel_left (hFair.requests.symm.trans hRequests)
  exact ⟨hBegun, by decide, headsets, stop, hFair⟩

end Switch

end CallAudio
