import CallAudio.Proofs.Agreement
import CallAudio.Proofs.Layers
import CallAudio.Proofs.Staleness

/-! # Schedules

The simulated handset reports what happens to it, and the application applies the reports one at a
time or all at once, whenever it likes. Every such schedule comes to what the reports alone come to,
applied one after the other: the replies that wait among them change nothing but the link. So two
schedules of the same reports cannot be told apart by what is selected, routed and announced.
-/

namespace CallAudio

def HandsetAction.report? : HandsetAction → Option Report
  | .connect headset => some (.bluetooth (.connected headset))
  | .disconnect address => some (.bluetooth (.disconnected address))
  | .reportBluetooth event => some (.bluetooth event)
  | .plug name => some (.wired (.plugged name))
  | .unplug => some (.wired .unplugged)
  | .reportWired event => some (.wired event)
  | _ => none

namespace Host

def receiver? {σ : Type} (host : Host σ) : Report → Option Nat
  | .bluetooth _ => host.bluetoothReceiver
  | .wired _ => host.wiredReceiver

def hears {σ : Type} (host : Host σ) (action : HandsetAction) : List Callback :=
  (action.report?.bind fun report => (host.receiver? report).map (⟨·, report⟩)).toList

theorem hears_of_registrations {σ : Type} {here there : Host σ}
    (h : there.registrations = here.registrations) : there.hears = here.hears := by
  have hReceiver : there.receiver? = here.receiver? := by
    funext report
    cases report with
    | bluetooth => exact congrArg Prod.fst h
    | wired => exact congrArg (·.2.1) h
  funext action
  rw [hears, hReceiver, hears]

theorem reportBluetooth_hears (host : Host Handset) (event : BluetoothEvent) :
    let after := host.reportBluetooth event
    after.queue = host.queue ++ (host.bluetoothReceiver.map (⟨·, .bluetooth event⟩)).toList ∧
      after.notices = host.notices ∧ after.terms = host.terms := by
  intro after
  cases hReceiver : host.bluetoothReceiver <;> simp [after, reportBluetooth, hReceiver, deliver, terms]

theorem reportWired_hears (host : Host Handset) (event : WiredEvent) :
    let after := host.reportWired event
    after.queue = host.queue ++ (host.wiredReceiver.map (⟨·, .wired event⟩)).toList ∧
      after.notices = host.notices ∧ after.terms = host.terms := by
  intro after
  cases hReceiver : host.wiredReceiver <;> simp [after, reportWired, hReceiver, deliver, terms]

/-- A report waits in the queue, and what decides on the handset stays as it is. -/
theorem react_reports (host : Host Handset) {action : HandsetAction}
    (hReports : action.report?.isSome = true) :
    let after := host.react action
    after.queue = host.queue ++ host.hears action ∧ after.notices = host.notices ∧
      after.terms = host.terms := by
  cases action with
  | connect | disconnect | reportBluetooth => exact reportBluetooth_hears _ _
  | plug | unplug | reportWired => exact reportWired_hears _ _
  | _ => cases hReports

end Host

namespace HandsetMove

def action? : HandsetMove → Option HandsetAction
  | .operation _ _ => none
  | .handset action => some action

def isScheduled : HandsetMove → Bool
  | .operation .pump _ | .operation .next _ => true
  | .operation _ _ => false
  | .handset action => action.report?.isSome

end HandsetMove

def handsetActions (moves : List HandsetMove) : List HandsetAction :=
  moves.filterMap HandsetMove.action?

namespace Switch

variable {switch begin : Switch Handset} {order : PreferredOrder} {now : Nat}
  {heard waiting rest : List Callback}

def onTime (switch : Switch Handset) : HandsetMove → Bool
  | .operation .pump now => (switch.drain now).2.tracker.deadline?.all (now < ·)
  | _ => true

def punctual (switch : Switch Handset) : List HandsetMove → Bool
  | [] => true
  | move :: moves => switch.onTime move && (switch.handsetMove move).punctual moves

/-! ## What waits

Replies come in only while requests are granted, and each finds a fresh selection.
-/

/-- What waits are the callbacks `waiting`, with replies among them once the selection is fresh. -/
def Queues (switch : Switch Handset) (waiting : List Callback) : Prop :=
  switch.host.queue = waiting ∨ (switch.host.terms.2 = false ∧ switch.Fresh) ∧
    Thinned Callback.IsReply switch.host.queue waiting

theorem Queues.thinned (h : switch.Queues waiting) :
    Thinned Callback.IsReply switch.host.queue waiting := by
  rcases h with hSame | ⟨_, hThinned⟩
  · rw [hSame]
    exact .refl waiting
  · exact hThinned

theorem Queues.empty (h : switch.Queues waiting) (hQueue : switch.host.queue = []) :
    waiting = [] := (hQueue ▸ h.thinned).nil_left

/-- The first callback is one of those that wait, or a reply that finds a fresh selection. -/
theorem Queues.take (h : switch.Queues waiting) {callback : Callback}
    (hQueue : switch.host.queue = callback :: rest) :
    (∃ later, waiting = callback :: later ∧ (switch.requeue rest).Queues later) ∨
      callback.IsReply ∧ switch.host.terms.2 = false ∧ switch.Fresh ∧
        (switch.requeue rest).Queues waiting := by
  rcases h with hSame | ⟨hFresh, hThinned⟩
  · exact .inl ⟨rest, hSame.symm.trans hQueue, .inl rfl⟩
  rw [hQueue] at hThinned
  cases hThinned with
  | keep _ hRest => exact .inl ⟨_, rfl, .inr ⟨hFresh, hRest⟩⟩
  | drop hReply hRest => exact .inr ⟨hReply, hFresh.1, hFresh.2, .inr ⟨hFresh, hRest⟩⟩

theorem Queues.arrive (h : switch.Queues waiting) {after : Switch Handset}
    (hConcurs : switch.Concurs after) {more : List Callback}
    (hQueue : after.host.queue = switch.host.queue ++ more) : after.Queues (waiting ++ more) := by
  rcases h with hSame | ⟨⟨hGrants, hFresh⟩, hThinned⟩
  · exact .inl (by rw [hQueue, hSame])
  · refine .inr ⟨⟨by rw [hConcurs.terms, hGrants], hConcurs.fresh hFresh⟩, ?_⟩
    rw [hQueue]
    exact hThinned.append (.refl more)

theorem Consistent.queues_handle (h : Consistent order switch) (hQueues : switch.Queues waiting)
    (callback : Callback) (now : Nat) : (switch.handle callback now).Queues waiting := by
  rcases h.fresh_of_reply callback now with hQueue | ⟨hGrants, hFresh, reply, hQueue, hReply⟩
  · rcases hQueues with hSame | ⟨⟨hGrants, hFresh⟩, hThinned⟩
    · exact .inl (hQueue.trans hSame)
    · refine .inr ⟨⟨?_, h.fresh_still hGrants hFresh callback now⟩, hQueue ▸ hThinned⟩
      rw [terms_handle, hGrants]
  · have hLonger := hQueues.thinned.append (.drop hReply .nil)
    rw [List.append_nil] at hLonger
    exact .inr ⟨⟨hGrants, hFresh⟩, hQueue ▸ hLonger⟩

/-! ## The reports alone -/

def applied (switch : Switch Handset) (callbacks : List Callback) : Switch Handset :=
  callbacks.foldl (fun switch callback => switch.handle callback 0) switch

theorem Consistent.applied (h : Consistent order switch) (callbacks : List Callback) :
    Consistent order (switch.applied callbacks) :=
  List.foldlRecOn _ _ h fun _ hBefore callback _ => hBefore.handle callback 0

/-- Of the callbacks heard since `begin`, some were applied and the others wait. -/
structure Replays (order : PreferredOrder) (begin : Switch Handset) (heard : List Callback)
    (switch : Switch Handset) : Prop where
  consistent : Consistent order switch
  receivers : switch.host.registrations = begin.host.registrations
  replayed : ∃ done waiting, heard = done ++ waiting ∧ (begin.applied done).Agrees switch ∧
    switch.Queues waiting

theorem replays_begin (h : Consistent order begin) (hQueue : begin.host.queue = []) :
    Replays order begin [] begin :=
  ⟨h, rfl, [], [], rfl, ⟨.refl begin, rfl, rfl⟩, .inl hQueue⟩

theorem Replays.next (h : Replays order begin heard switch) (hBegin : Consistent order begin)
    (now : Nat) : Replays order begin heard (switch.perform .next now) := by
  cases hQueue : switch.host.queue with
  | nil => rwa [perform_next_nil hQueue]
  | cons callback rest =>
    rw [perform_next_cons hQueue]
    obtain ⟨done, waiting, rfl, hAgrees, hQueues⟩ := h.replayed
    have hTaken : Consistent order (switch.requeue rest) := h.consistent.requeue rest
    have hTakenAgrees : (begin.applied done).Agrees (switch.requeue rest) :=
      hAgrees.rehost rfl rfl
    refine ⟨hTaken.handle callback now, (registrations_handle _ callback now).trans h.receivers, ?_⟩
    rcases hQueues.take hQueue with ⟨later, rfl, hRest⟩ | ⟨hReply, hGrants, hFresh, hRest⟩
    · refine ⟨done ++ [callback], later, by simp, ?_, hTaken.queues_handle hRest callback now⟩
      rw [Switch.applied, List.foldl_append]
      exact hTakenAgrees.handle (hBegin.applied done) hTaken callback 0 now
    -- No report brought this one in, so nothing is applied in its place on the other side.
    · have hUnmoved := hTaken.agrees_reply hGrants hFresh hReply now
      exact ⟨done, waiting, rfl, hTakenAgrees.trans hUnmoved,
        hTaken.queues_handle hRest callback now⟩

theorem Replays.drainWithin (h : Replays order begin heard switch)
    (hBegin : Consistent order begin) (count now : Nat) :
    Replays order begin heard (switch.drainWithin count now).2 := by
  induction count generalizing switch with
  | zero => exact h
  | succ count ih =>
    cases hQueue : switch.host.queue with
    | nil => rwa [drainWithin_nil hQueue]
    | cons callback rest =>
      rw [drainWithin_cons hQueue, ← perform_next_cons hQueue now]
      exact ih (h.next hBegin now)

theorem Replays.react (h : Replays order begin heard switch) {action : HandsetAction}
    (hReports : action.report?.isSome = true) :
    Replays order begin (heard ++ begin.host.hears action) (switch.react action) := by
  obtain ⟨hQueue, hNotices, hTerms⟩ := switch.host.react_reports hReports
  have hConcurs : switch.Concurs (switch.react action) := concurs_rehost hTerms
  obtain ⟨done, waiting, rfl, hAgrees, hQueues⟩ := h.replayed
  refine ⟨h.consistent.congr rfl rfl rfl rfl rfl,
    (switch.host.registrations_react action).trans h.receivers,
    done, waiting ++ begin.host.hears action, List.append_assoc _ _ _, ?_, ?_⟩
  · exact hAgrees.rehost hTerms hNotices
  · rw [← Host.hears_of_registrations h.receivers]
    exact hQueues.arrive hConcurs hQueue

theorem Replays.move (h : Replays order begin heard switch) (hBegin : Consistent order begin)
    {move : HandsetMove} (hScheduled : move.isScheduled = true)
    (hTime : switch.onTime move = true) :
    Replays order begin (heard ++ (handsetActions [move]).flatMap begin.host.hears)
      (switch.handsetMove move) := by
  cases move with
  | handset action =>
    have hHeard : (handsetActions [.handset action]).flatMap begin.host.hears =
        begin.host.hears action := List.append_nil _
    rw [hHeard]
    exact h.react hScheduled
  | operation operation now =>
    have hNothing : heard ++ (handsetActions [.operation operation now]).flatMap
        begin.host.hears = heard := List.append_nil heard
    rw [hNothing]
    cases operation with
    | next => exact h.next hBegin now
    | pump =>
      have hDrained : Replays order begin heard (switch.drain now).2 :=
        h.drainWithin hBegin _ now
      rwa [← poll_of_deadline hTime] at hDrained
    | _ => cases hScheduled

theorem Replays.run (h : Replays order begin heard switch) (hBegin : Consistent order begin)
    {moves : List HandsetMove} (hScheduled : ∀ move ∈ moves, move.isScheduled = true)
    (hPunctual : switch.punctual moves = true) :
    Replays order begin (heard ++ (handsetActions moves).flatMap begin.host.hears)
      (switch.handsetRun moves) := by
  induction moves generalizing switch heard with
  | nil =>
    have hNothing : heard ++ (handsetActions []).flatMap begin.host.hears = heard :=
      List.append_nil heard
    rwa [hNothing]
  | cons move moves ih =>
    obtain ⟨hTime, hLater⟩ := Bool.and_eq_true_iff.mp hPunctual
    obtain ⟨hFirst, hRest⟩ := List.forall_mem_cons.mp hScheduled
    have hMoved := ih (h.move hBegin hFirst hTime) hRest hLater
    have hActions : handsetActions (move :: moves) = handsetActions [move] ++ handsetActions moves :=
      List.filterMap_append (l := [move])
    rwa [hActions, List.flatMap_append, ← List.append_assoc]

theorem punctual_append (switch : Switch Handset) (moves more : List HandsetMove) :
    switch.punctual (moves ++ more) =
      (switch.punctual moves && (switch.handsetRun moves).punctual more) := by
  induction moves generalizing switch with
  | nil => rfl
  | cons move moves ih =>
    rw [List.cons_append, punctual, ih, punctual, Bool.and_assoc]
    rfl

/-- A schedule that ends with a pump comes to what the reports alone come to. -/
theorem Consistent.schedule_agrees (h : Consistent order begin) (hQueue : begin.host.queue = [])
    {moves : List HandsetMove} (hScheduled : ∀ move ∈ moves, move.isScheduled = true) {last : Nat}
    (hPunctual : begin.punctual (moves ++ [.operation .pump last]) = true) :
    let after := begin.handsetRun (moves ++ [.operation .pump last])
    Consistent order after ∧
      (begin.applied ((handsetActions moves).flatMap begin.host.hears)).Agrees after := by
  intro after
  rw [punctual_append] at hPunctual
  obtain ⟨hBefore, hLast⟩ := Bool.and_eq_true_iff.mp hPunctual
  have hTime := (Bool.and_eq_true_iff.mp hLast).1
  have hRun := (replays_begin h hQueue).run h hScheduled hBefore
  have hAfter : after = ((begin.handsetRun moves).drain last).2 :=
    List.foldl_append.trans (poll_of_deadline hTime)
  obtain ⟨hConsistent, _, done, waiting, hHeard, hAgrees, hQueues⟩ := hRun.drainWithin h _ last
  have hNone : waiting = [] := hQueues.empty (hRun.consistent.queue_drain last)
  rw [hNone, List.append_nil, List.nil_append] at hHeard
  rw [hAfter, hHeard]
  exact ⟨hConsistent, hAgrees⟩

/-- Let nothing wait, and let the handset report the same in two schedules that both end with a pump,
in neither of which a request waits until its deadline. Then whenever the callbacks were applied, one
at a time or all at once, the same devices are available, selected, pinned and routed, the same
headsets are known and marked as failed, and the device listener was told the same in the same
order. -/
theorem schedule_unobservable (config : SwitchConfig) (handset : Handset)
    (incidents : List Incident) (first second : List HandsetMove) (last later : Nat) :
    let begin := (create config handset).meetAll incidents
    let one := begin.handsetRun (first ++ [.operation .pump last])
    let other := begin.handsetRun (second ++ [.operation .pump later])
    begin.host.queue = [] →
      (∀ move ∈ first, move.isScheduled = true) → (∀ move ∈ second, move.isScheduled = true) →
      handsetActions second = handsetActions first →
      begin.punctual (first ++ [.operation .pump last]) = true →
      begin.punctual (second ++ [.operation .pump later]) = true →
      other.selector = one.selector ∧ other.route.routed = one.route.routed ∧
        other.tracker.headsets = one.tracker.headsets ∧ other.tracker.failed = one.tracker.failed ∧
        other.deviceNotices = one.deviceNotices := by
  intro begin one other hQueue hFirst hSecond hSame hOne hOther
  have h : Consistent config.order begin := consistent_meetAll config handset incidents
  obtain ⟨hOneConsistent, hOneAgrees⟩ := h.schedule_agrees hQueue hFirst hOne
  obtain ⟨hOtherConsistent, hOtherAgrees⟩ := h.schedule_agrees hQueue hSecond hOther
  rw [hSame] at hOtherAgrees
  have hAgrees : one.Agrees other := hOneAgrees.symm.trans hOtherAgrees
  have hRouted := hAgrees.routed hOneConsistent hOtherConsistent
  refine ⟨hAgrees.selector, hRouted, ?_, ?_, hAgrees.notices⟩
  all_goals rw [hAgrees.tracker]

/-- A headset connects and its link drops. If its reply was applied before, the link is asked for
again, and if it waits behind the drop, it is not. -/
theorem schedule_unobservable_dropped :
    let config : SwitchConfig := ⟨.usual, usualLinkTimeout, true, false⟩
    let begin := (create config Handset.fresh).meetAll
      [.move (.operation (.start (some 3)) 0), .move (.operation .activate 0)]
    let buds : HandsetMove := .handset (.connect ⟨"Buds", "AA"⟩)
    let drop : HandsetMove := .handset (.reportBluetooth (.audioDisconnected "AA"))
    let first := [buds, .operation .next 1, .operation .next 2, drop]
    let one := begin.handsetRun (first ++ [.operation .pump 4])
    let other := begin.handsetRun ([buds, drop] ++ [.operation .pump 9])
    one.host.commands ≠ other.host.commands ∧ other.selector = one.selector ∧
      other.deviceNotices = one.deviceNotices := by
  intro config begin buds drop first one other
  obtain ⟨hSelector, _, _, _, hNotices⟩ := schedule_unobservable config Handset.fresh
    [.move (.operation (.start (some 3)) 0), .move (.operation .activate 0)] first [buds, drop] 4 9
    (by decide) (by decide) (by decide) rfl (by decide) (by decide)
  exact ⟨by decide, hSelector, hNotices⟩

end Switch

end CallAudio
