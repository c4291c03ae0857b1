import CallAudio.Proofs.Operations

/-! # Draining the queue

Applying a callback may call forth another one: the report of a link that the platform confirms at
once. There is at most one such report, it comes only if a headset is routed in the end, and while
one is routed a report calls forth none. So the queue runs empty.
-/

namespace CallAudio

def Callback.IsReply (callback : Callback) : Prop :=
  ∃ address, callback.report = .bluetooth (.audioConnected address)

namespace Host

variable {σ : Type} {asked : Prop} {before middle after : Host σ}

/-- One reply came in, which happens only if one was asked for, or nothing did. -/
def Answered (asked : Prop) (before after : Host σ) : Prop :=
  after.queue = before.queue ∨
    asked ∧ ∃ reply, after.queue = before.queue ++ [reply] ∧ reply.IsReply

theorem Answered.mono {other : Prop} (h : Answered asked before after) (hOther : asked → other) :
    Answered other before after := by
  obtain hSame | ⟨hAsked, hReply⟩ := h
  · exact .inl hSame
  · exact .inr ⟨hOther hAsked, hReply⟩

theorem Answered.since (h : Answered asked middle after) (hSame : middle.queue = before.queue) :
    Answered asked before after := by
  rwa [Answered, hSame] at h

theorem Answered.still (h : Answered asked before middle) (hSame : after.queue = middle.queue) :
    Answered asked before after := by
  rwa [Answered, hSame]

@[simp] theorem queue_writeAll (host : Host σ) (lines : List LogLine) :
    (host.writeAll lines).queue = host.queue := by
  induction lines generalizing host with
  | nil => rfl
  | cons line lines ih => exact (ih (host.write line)).trans (queue_write host line)

@[simp] theorem queue_notify (host : Host σ) (notice : Notice) :
    (host.notify notice).queue = host.queue := rfl

@[simp] theorem queue_headsetEvent (listeners : Listeners) (event : HeadsetEvent) (host : Host σ) :
    (listeners.headsetEvent event host).queue = host.queue := by
  cases hListener : listeners.headset <;> simp [Listeners.headsetEvent, hListener]

@[simp] theorem queue_devicesChanged (listeners : Listeners) (available : List Device)
    (selected : Option Device) (host : Host σ) :
    (listeners.devicesChanged available selected host).queue = host.queue := by
  cases hListener : listeners.device <;> simp [Listeners.devicesChanged, hListener]

variable [Platform σ]

@[simp] theorem queue_issue (host : Host σ) (command : Command) :
    (host.issue command).queue = host.queue := rfl

theorem answered_enableLink (host : Host σ) (address : String) :
    Answered ((host.enableLink address).1 = .ok ()) host (host.enableLink address).2 := by
  rw [enableLink]
  cases Platform.linkAnswer host.platform address with
  | confirmed =>
    simp only [reportBluetooth]
    split
    · exact .inr ⟨trivial, _, rfl, address, rfl⟩
    · exact .inl rfl
  | _ => exact .inl rfl

end Host

variable {σ : Type} [Platform σ]

namespace Tracker

variable (tracker : Tracker) (host : Host σ)

@[simp] theorem queue_closeLink : (tracker.closeLink host).2.queue = host.queue := by
  rw [closeLink]
  split <;> simp

@[simp] theorem queue_checkTimeout (now : Nat) :
    (tracker.checkTimeout now host).2.2.queue = host.queue := by
  rw [checkTimeout]
  split
  · split <;> simp
  · rfl

theorem answered_requestLink (address : String) (now : Nat) :
    Host.Answered ((tracker.requestLink address now host).1 = .ok ()) host
      (tracker.requestLink address now host).2.2 := by
  have hAsked := (host.write (.debug "Attempting to enable Bluetooth SCO"
    [("address", address)])).answered_enableLink address
  replace hAsked := hAsked.since (Host.queue_write _ _)
  rw [requestLink]
  generalize (host.write _).enableLink address = asked at *
  obtain ⟨result, asked⟩ := asked
  cases result with
  | ok => exact hAsked.mono fun _ => rfl
  | error reason =>
    refine (hAsked.mono ?_).still (Host.queue_writeAll _ _)
    rintro ⟨⟩

theorem answered_openLink (address : String) (now : Nat) :
    Host.Answered ((tracker.openLink address now host).1 = .ok ()) host
      (tracker.openLink address now host).2.2 := by
  rw [openLink]
  split
  · exact .inl (Host.queue_write _ _)
  split
  · exact .inl (Host.queue_write _ _)
  · exact (answered_requestLink _ _ address now).since (queue_closeLink tracker host)

end Tracker

namespace Route

variable (tracker : Option Tracker) (host : Host σ)

@[simp] theorem queue_closeAny : (closeAny tracker host).2.queue = host.queue := by
  cases tracker <;> simp [closeAny]

@[simp] theorem queue_disable (old : Device) (next : Option Device) :
    (disable old next tracker host).2.queue = host.queue := by
  cases old with
  | bluetoothHeadset headset =>
    rw [disable]
    split <;> simp
  | _ => simp [disable]

@[simp] theorem queue_vacate (route : Route) (next : Option Device) :
    (route.vacate next tracker host).2.queue = host.queue := by
  cases hRouted : route.routed <;> simp [vacate, hRouted]

theorem answered_enable (device : Device) (now : Nat) :
    Host.Answered ((enable device tracker now host).1 = .ok () ∧ device.isBluetooth = true) host
      (enable device tracker now host).2.2 := by
  cases device with
  | bluetoothHeadset headset =>
    cases tracker with
    | none => exact .inl (Host.queue_write _ _)
    | some tracker =>
      have hOpened := (tracker.answered_openLink (host.write (.info "Routing audio"
        [("device", (Device.bluetoothHeadset headset).text)])) headset.address now)
      exact (hOpened.since (Host.queue_write _ _)).mono fun hOk => ⟨hOk, rfl⟩
  | _ => exact .inl (by simp [enable])

theorem answered_routeTo (route : Route) (device : Option Device) (now : Nat) :
    let outcome := route.routeTo device tracker now host
    Host.Answered (outcome.result = .ok () ∧ outcome.route.routed = device ∧
      device.any (·.isBluetooth)) host outcome.host := by
  rw [routeTo]
  split
  · exact .inl rfl
  cases device with
  | none => exact .inl (queue_vacate tracker host route none)
  | some device =>
    have hVacated := queue_vacate tracker host route (some device)
    generalize route.vacate (some device) tracker host = vacated at *
    have hEnabled := (answered_enable vacated.1 vacated.2 device now).since hVacated
    simp only
    split
    · exact hEnabled.mono fun hAsked => ⟨rfl, rfl, hAsked.2⟩
    · rename_i hFailed
      refine hEnabled.mono fun hAsked => ?_
      cases hFailed.symm.trans hAsked.1

theorem routeTo_other {device : Option Device} (h : device.any (·.isBluetooth) = false)
    (route : Route) (now : Nat) : (route.routeTo device tracker now host).result = .ok () := by
  rw [routeTo]
  split
  · rfl
  cases device with
  | none => rfl
  | some device =>
    simp only [(enable_other (by simpa using h) (route.vacate (some device) tracker host).1 now
      (route.vacate (some device) tracker host).2).1]

end Route

namespace Selector

variable {selector : Selector} {candidates : List Device} {excluded : Device → Bool}

theorem recompute_free (h : selector.pinned = false) :
    (selector.recompute candidates excluded).pinned = false := by
  simp [recompute, revalidate, load, h]

theorem recompute_kept (hPinned : selector.pinned = true) {device : Device}
    (hSelected : selector.selected = some device)
    (hMem : device ∈ selector.order.arrange candidates) :
    (selector.recompute candidates excluded).pinned = true ∧
      (selector.recompute candidates excluded).selected = some device := by
  simp [recompute, revalidate, choice, load, hPinned, hSelected, hMem]

end Selector

theorem exists_headset_of_any {device : Option Device} (h : device.any (·.isBluetooth) = true) :
    ∃ headset, device = some (.bluetoothHeadset headset) := by
  cases device with
  | none => cases h
  | some device =>
    obtain ⟨headset, rfl⟩ := Device.isBluetooth_iff.mp h
    exact ⟨headset, rfl⟩

namespace Switch

variable {order : PreferredOrder} {switch : Switch σ} {now : Nat}

def onHeadset (switch : Switch σ) : Bool := switch.route.routed.any (·.isBluetooth)

omit [Platform σ] in
@[simp] theorem queue_announce (switch : Switch σ) (view : List Device × Option Device) :
    (switch.announce view).host.queue = switch.host.queue := by
  rw [announce]
  split
  · rfl
  · exact Host.queue_devicesChanged _ _ _ _

omit [Platform σ] in
@[simp] theorem onHeadset_announce (switch : Switch σ) (view : List Device × Option Device) :
    (switch.announce view).onHeadset = switch.onHeadset := by
  rw [announce]
  split <;> rfl

@[simp] theorem queue_recompute (switch : Switch σ) (rejected : List Device) :
    (switch.recompute rejected).host.queue = switch.host.queue := Host.queue_writeAll _ _

theorem answered_routeOnce (switch : Switch σ) (now : Nat) :
    let once := switch.routeOnce now
    Host.Answered (once.1 = .ok () ∧ once.2.onHeadset) switch.host once.2.host := by
  refine (Route.answered_routeTo switch.tracker.listening? switch.host switch.route
    switch.selector.selected now).mono ?_
  rintro ⟨hOk, hRouted, hHeadset⟩
  refine ⟨hOk, ?_⟩
  rw [onHeadset, routeOnce]
  simp only [hRouted]
  exact hHeadset

/-- Refused requests get no reply, so falling back gets no more than one. -/
theorem answered_routeWithin (tries : Nat) (rejected : List Device) (now : Nat)
    (switch : Switch σ) :
    let last := switch.routeWithin tries rejected now
    Host.Answered last.onHeadset switch.host last.host := by
  induction tries generalizing switch rejected with
  | zero => exact .inl rfl
  | succ tries ih =>
    have hOnce := switch.answered_routeOnce now
    cases hResult : (switch.routeOnce now).1 with
    | ok =>
      rw [routeWithin_ok hResult]
      exact hOnce.mono And.right
    | error error =>
      have hRefused : (switch.routeOnce now).2.host.queue = switch.host.queue := by
        obtain hSame | ⟨⟨hOk, _⟩, _⟩ := hOnce
        · exact hSame
        · cases hResult.symm.trans hOk
      cases hSelected : switch.selector.selected with
      | none => exact .inl (by simpa [routeWithin, hSelected] using hRefused)
      | some device =>
        rw [routeWithin_error hResult hSelected]
        simp only
        split
        · exact .inl ((Host.queue_write _ _).trans hRefused)
        · refine (ih _ _).since ?_
          simpa [fallBack, unpin, notifyHeadset, write] using hRefused

theorem answered_refreshSince (switch : Switch σ) (view : List Device × Option Device) (now : Nat) :
    let last := switch.refreshSince view now
    Host.Answered last.onHeadset switch.host last.host := by
  have hRouted := answered_routeWithin ((switch.recompute []).tracker.headsets.length + 1) [] now
    (switch.recompute [])
  have hSame := hRouted.since (queue_recompute switch [])
  refine (hSame.mono fun hHeadset => ?_).still (queue_announce _ view)
  rwa [refreshSince, onHeadset_announce]

omit [Platform σ] in
@[simp] theorem queue_applyCallback (switch : Switch σ) (callback : Callback) :
    (switch.applyCallback callback).2.host.queue = switch.host.queue := by
  rcases applyCallback_cases switch callback with
    ⟨wired, lines, hEq⟩ | ⟨event, report, _, _, hListening, hReport, hEq⟩
  · rw [hEq]
    exact Host.queue_writeAll _ lines
  · rw [hEq, applyBluetooth, hListening, hReport]
    simp only [Bool.not_true, Bool.false_eq_true, if_false, yieldFailed, reopenDropped]
    split <;> split <;> simp [notifyHeadset, write, unpin]

/-- A callback calls forth at most one more, and then a headset is routed. -/
theorem answered_handle (switch : Switch σ) (callback : Callback) (now : Nat) :
    let last := switch.handle callback now
    Host.Answered last.onHeadset switch.host last.host := by
  cases hChanged : (switch.applyCallback callback).1 with
  | false =>
    rw [handle_unchanged hChanged]
    exact .inl (queue_applyCallback switch callback)
  | true =>
    rw [handle_changed hChanged]
    exact (answered_refreshSince _ _ now).since (queue_applyCallback switch callback)

theorem answered_poll (switch : Switch σ) (now : Nat) :
    let last := switch.poll now
    Host.Answered last.onHeadset switch.host last.host := by
  have hQueue := switch.tracker.queue_checkTimeout switch.host now
  rw [poll]
  split
  · exact .inl rfl
  generalize switch.tracker.checkTimeout now switch.host = checked at *
  obtain ⟨event, tracker, host⟩ := checked
  cases event with
  | none => exact .inl hQueue
  | some event =>
    refine (answered_refreshSince _ _ now).since (Eq.trans ?_ hQueue)
    rw [yieldFailed]
    split <;> simp [notifyHeadset, write, unpin]

/-! ## While a headset is routed

The report of a link changes neither the headsets nor their failure marks, so the routed headset is
still the best one, or it gives way to a device of another kind.
-/

theorem find?_among_of_found {α : Type} {list : List α} {wanted among : α → Bool} {found : α}
    (h : list.find? wanted = some found) (hAmong : among found = true) :
    list.find? (fun one => among one && wanted one) = some found := by
  obtain ⟨hFound, before, after, rfl, hBefore⟩ := List.find?_eq_some_iff_append.mp h
  refine List.find?_eq_some_iff_append.mpr ⟨by simp [hAmong, hFound], before, after, rfl, ?_⟩
  intro other hMem
  have hOther := hBefore other hMem
  simp only [Bool.not_eq_true'] at hOther
  simp [hOther]

omit [Platform σ] in
/-- Which headset is best depends on the headsets alone. -/
theorem Settled.headset_eq {here there : Switch σ} (h : here.Settled) (h' : there.Settled)
    (hHeadsets : there.tracker.headsets = here.tracker.headsets)
    (hFailed : there.tracker.failed = here.tracker.failed)
    (hFree : here.selector.pinned = false) (hFree' : there.selector.pinned = false)
    {first second : Headset} (hFirst : here.selector.selected = some (.bluetoothHeadset first))
    (hSecond : there.selector.selected = some (.bluetoothHeadset second)) : second = first := by
  have hBest : ∀ {switch : Switch σ} {headset : Headset}, switch.Settled →
      switch.selector.pinned = false →
      switch.selector.selected = some (.bluetoothHeadset headset) →
      (switch.tracker.headsets.find? (·.address ∉ switch.tracker.failed)).map
        Device.bluetoothHeadset = some (.bluetoothHeadset headset) := by
    intro switch headset hSettled hFree hSelected
    rw [← hSettled.find?_headset]
    exact find?_among_of_found ((hSettled.best hFree).symm.trans hSelected) rfl
  have hSame := hBest h' hFree' hSecond
  rw [hHeadsets, hFailed, hBest h hFree hFirst] at hSame
  cases hSame
  rfl

omit [Platform σ] in
/-- A report that a link is open changes the link, if it is heard at all. -/
theorem applyCallback_reply {callback : Callback} (hReply : callback.IsReply)
    (hChanged : (switch.applyCallback callback).1 = true) :
    switch.tracker.listening = true ∧ ∃ address host,
      (switch.applyCallback callback).2 =
        { switch with tracker := { switch.tracker with link := .active address }, host } := by
  obtain ⟨address, hReport⟩ := hReply
  rw [applyCallback] at hChanged ⊢
  split at hChanged
  · cases hChanged
  rename_i hCurrent
  rw [if_neg hCurrent]
  simp only [hReport] at hChanged ⊢
  cases hListening : switch.tracker.listening with
  | false => simp [applyBluetooth, hListening] at hChanged
  | true =>
    cases hFound : switch.tracker.find? address with
    | none => simp [applyBluetooth, hListening, Tracker.report?, hFound] at hChanged
    | some headset =>
      simp only [applyBluetooth, hListening, Tracker.report?, hFound, yieldFailed, reopenDropped,
        Tracker.apply]
      exact ⟨trivial, address, _, rfl⟩

theorem headset_recompute {headset chosen : Headset} (hSettled : switch.Settled)
    (hSound : switch.tracker.Sound)
    (hSelected : switch.selector.selected = some (.bluetoothHeadset headset))
    (hChosen : (switch.recompute []).selector.selected = some (.bluetoothHeadset chosen)) :
    chosen = headset := by
  have hUnspoiled : switch.Unspoiled := by
    intro _ device hDevice
    obtain ⟨other, _, hOther, hFails⟩ := hSettled.selected
    obtain rfl := Option.some.inj (hDevice.symm.trans hOther)
    exact hFails
  cases hPinned : switch.selector.pinned with
  | false =>
    have hAnew : (switch.recompute []).Settled := settled_recompute hSound hUnspoiled (by simp)
    exact hSettled.headset_eq hAnew rfl rfl hPinned (Selector.recompute_free hPinned) hSelected
      hChosen
  | true =>
    have hMem : .bluetoothHeadset headset ∈ switch.selector.order.arrange switch.candidates := by
      rw [PreferredOrder.mem_arrange, candidates_eq_roster hSound]
      simp [roster, (hSettled.headset_mem hSelected).1]
    have hKept : (switch.recompute []).selector.selected = some (.bluetoothHeadset headset) :=
      (Selector.recompute_kept hPinned hSelected hMem).2
    cases hChosen.symm.trans hKept
    rfl

theorem queue_applyRoute_other
    (h : switch.selector.selected.any (·.isBluetooth) = false) (now : Nat) :
    (switch.applyRoute now).host.queue = switch.host.queue := by
  have hOk : (switch.routeOnce now).1 = .ok () := Route.routeTo_other _ _ h _ now
  have hOnce := Route.answered_routeTo switch.tracker.listening? switch.host switch.route
    switch.selector.selected now
  rw [applyRoute, routeWithin_ok hOk]
  obtain hSame | ⟨⟨_, _, hHeadset⟩, _⟩ := hOnce
  · exact hSame
  · exact absurd (hHeadset.symm.trans h) (by decide)

/-- While a headset is routed, the report of a link calls forth no other. -/
theorem Consistent.queue_handle_reply (h : Consistent order switch) (hHeadset : switch.onHeadset)
    {callback : Callback} (hReply : callback.IsReply) (now : Nat) :
    (switch.handle callback now).host.queue = switch.host.queue := by
  have hQueue := queue_applyCallback switch callback
  cases hChanged : (switch.applyCallback callback).1 with
  | false =>
    rw [handle_unchanged hChanged]
    exact hQueue
  | true =>
    have hRunning := running_of_changed hChanged
    have hSteady := h.toSteady.applyCallback callback
    obtain ⟨headset, hRouted⟩ := exists_headset_of_any hHeadset
    have hSelected := h.selected_of_routed hRouted
    obtain ⟨_, address, host, hEq⟩ := applyCallback_reply hReply hChanged
    rw [handle_changed hChanged, refresh, refreshSince, queue_announce, ← hQueue]
    rw [hEq] at hSteady ⊢
    generalize hNext : ({ switch with
      tracker := { switch.tracker with link := .active address }, host } : Switch σ) = next at *
    have hSettled : next.Settled := by
      subst hNext
      exact (h.settled hRunning).congr rfl rfl rfl rfl
    have hStill : next.route = switch.route ∧ next.selector = switch.selector := by
      subst hNext
      exact ⟨rfl, rfl⟩
    rw [← hStill.2] at hSelected
    rw [← hStill.1] at hRouted
    cases hChosen : (next.recompute []).selector.selected.any (·.isBluetooth) with
    | false => exact (queue_applyRoute_other hChosen now).trans (queue_recompute next [])
    | true =>
      obtain ⟨chosen, hChosen⟩ := exists_headset_of_any hChosen
      obtain rfl := headset_recompute hSettled hSteady.sound hSelected hChosen
      have hSame : (next.recompute []).route.routed = (next.recompute []).selector.selected :=
        hRouted.trans hChosen.symm
      rw [applyRoute_idle (.inr hSame), queue_recompute]

/-! ## The queue runs empty -/

def Awaits (switch : Switch σ) (old replies : List Callback) : Prop :=
  switch.host.queue = old ++ replies ∧ ∀ reply ∈ replies, reply.IsReply

/-- How many callbacks can still be applied while `old` ones wait and `replies` behind them. A reply
that finds a headset routed calls forth none, but it may leave another device routed. -/
def applicable (old replies : List Callback) (onHeadset : Bool) : Nat :=
  3 * old.length + 2 * replies.length + if old.isEmpty && !onHeadset then 1 else 0

omit [Platform σ] in
theorem Awaits.reply {last : Switch σ} {old replies : List Callback} {reply : Callback}
    (hQueue : last.host.queue = old ++ replies ++ [reply])
    (hReplies : ∀ reply ∈ replies, reply.IsReply) (hReply : reply.IsReply) :
    last.Awaits old (replies ++ [reply]) := by
  refine ⟨hQueue.trans (List.append_assoc ..), ?_⟩
  intro other hMem
  rcases List.mem_append.mp hMem with hOld | hNew
  · exact hReplies other hOld
  · rwa [List.mem_singleton.mp hNew]

/-- A callback takes more from the count than the reply that it calls forth adds. -/
theorem Consistent.handle_applicable (h : Consistent order switch) {callback : Callback}
    {old replies rest : List Callback} (hWaiting : old ++ replies = callback :: rest)
    (hQueue : switch.host.queue = rest) (hReplies : ∀ reply ∈ replies, reply.IsReply) (now : Nat) :
    let last := switch.handle callback now
    ∃ old' replies', last.Awaits old' replies' ∧
      applicable old' replies' last.onHeadset < applicable old replies switch.onHeadset := by
  intro last
  have hAnswer := answered_handle switch callback now
  cases old with
  | cons first old =>
    obtain ⟨rfl, rfl⟩ : first = callback ∧ old ++ replies = rest := by simpa using hWaiting
    obtain hSame | ⟨hHeadset, reply, hAdded, hReply⟩ := hAnswer
    · refine ⟨old, replies, ⟨hSame.trans hQueue, hReplies⟩, ?_⟩
      simp only [applicable, List.length_cons]
      split <;> omega
    · rw [hQueue] at hAdded
      refine ⟨old, replies ++ [reply], .reply hAdded hReplies hReply, ?_⟩
      simp only [applicable, List.length_cons, List.length_append, List.length_nil, last, hHeadset]
      simp
      omega
  | nil =>
    obtain rfl : replies = callback :: rest := hWaiting
    obtain ⟨hReply, hRest⟩ := List.forall_mem_cons.mp hReplies
    have hFewer : last.host.queue = switch.host.queue →
        last.Awaits [] rest ∧
          applicable [] rest last.onHeadset < applicable [] (callback :: rest) switch.onHeadset := by
      intro hSame
      refine ⟨⟨hSame.trans hQueue, hRest⟩, ?_⟩
      simp only [applicable, List.length_cons]
      split <;> omega
    cases hHeadset : switch.onHeadset with
    | true =>
      have hSilent := h.queue_handle_reply hHeadset hReply now
      exact ⟨[], rest, hHeadset ▸ hFewer hSilent⟩
    | false =>
      obtain hSame | ⟨hLast, reply, hAdded, hAnother⟩ := hAnswer
      · exact ⟨[], rest, hHeadset ▸ hFewer hSame⟩
      · rw [hQueue] at hAdded
        refine ⟨[], rest ++ [reply], .reply hAdded hRest hAnother, ?_⟩
        simp [applicable, last, hLast]

theorem drainWithin_nil (h : switch.host.queue = []) (count now : Nat) :
    switch.drainWithin count now = (0, switch) := by
  cases count with
  | zero => rfl
  | succ count => rw [drainWithin, next?, h]

theorem drainWithin_cons {callback : Callback} {rest : List Callback}
    (h : switch.host.queue = callback :: rest) (count now : Nat) :
    let later := ((switch.requeue rest).handle callback now).drainWithin count now
    switch.drainWithin (count + 1) now = (later.1 + 1, later.2) := by
  rw [drainWithin, next?, h]
  rfl

theorem drainWithin_more {count more : Nat} (hDone : (switch.drainWithin count now).2.host.queue = [])
    (hMore : count ≤ more) : switch.drainWithin more now = switch.drainWithin count now := by
  induction count generalizing switch more with
  | zero => exact drainWithin_nil hDone more now
  | succ count ih =>
    obtain ⟨more, rfl⟩ := Nat.exists_eq_succ_of_ne_zero (Nat.ne_zero_of_lt hMore)
    cases hQueue : switch.host.queue with
    | nil => rw [drainWithin_nil hQueue, drainWithin_nil hQueue]
    | cons callback rest =>
      rw [drainWithin_cons hQueue] at hDone
      rw [drainWithin_cons hQueue, drainWithin_cons hQueue, ih hDone (Nat.le_of_succ_le_succ hMore)]

theorem Consistent.next_applicable (h : Consistent order switch) {old replies : List Callback}
    (hAwaits : switch.Awaits old replies) {next : Switch σ} (hNext : switch.next? now = some next) :
    ∃ old' replies', next.Awaits old' replies' ∧
      applicable old' replies' next.onHeadset < applicable old replies switch.onHeadset := by
  obtain ⟨hQueue, hReplies⟩ := hAwaits
  rw [next?] at hNext
  split at hNext
  · cases hNext
  rename_i callback rest hCallback
  cases hNext
  have hTaken : Consistent order (switch.requeue rest) := h.requeue rest
  exact hTaken.handle_applicable (hQueue.symm.trans hCallback) rfl hReplies now

theorem Consistent.queue_drainWithin (h : Consistent order switch) {old replies : List Callback}
    (hAwaits : switch.Awaits old replies) {count : Nat}
    (hCount : applicable old replies switch.onHeadset ≤ count) :
    (switch.drainWithin count now).2.host.queue = [] := by
  induction count generalizing switch old replies with
  | zero =>
    have hNone : old = [] ∧ replies = [] := by
      simp only [applicable] at hCount
      constructor <;> refine List.eq_nil_of_length_eq_zero ?_ <;> omega
    rw [drainWithin, hAwaits.1, hNone.1, hNone.2]
    rfl
  | succ count ih =>
    have hKept := h.next now
    rw [drainWithin]
    cases hNext : switch.next? now with
    | none =>
      rw [next?] at hNext
      split at hNext
      · assumption
      · cases hNext
    | some next =>
      rw [hNext] at hKept
      obtain ⟨_, _, hLater, hFewer⟩ := h.next_applicable hAwaits hNext
      exact ih hKept hLater (by omega)

/-- Draining applies every callback that waits, and every reply that this calls forth. -/
theorem Consistent.queue_drain (h : Consistent order switch) (now : Nat) :
    (switch.drain now).2.host.queue = [] := by
  cases hQueue : switch.host.queue with
  | nil => simp [drain, drainWithin, hQueue]
  | cons callback rest =>
    refine h.queue_drainWithin ⟨(List.append_nil _).symm, by simp⟩ ?_
    simp [applicable, hQueue]

end Switch

end CallAudio
