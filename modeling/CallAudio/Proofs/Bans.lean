import CallAudio.Proofs.Focus
import CallAudio.Proofs.Requests

/-! # Failed headsets are not tried again

A headset whose link failed is banned: it is not asked for a link again until it connects anew, is
chosen by hand, or the session ends. What became of the failure mark in between is of no account,
so the ban is kept beside the run.
-/

namespace CallAudio

structure Ban where
  /-- Its headset failed, and nothing has happened since that gives it another chance. -/
  banned : Bool
  /-- It was asked for a link while it was banned. -/
  broken : Bool
  deriving DecidableEq

namespace Ban

def none : Ban := ⟨false, false⟩

def lift (ban : Ban) : Ban := { ban with banned := false }

def impose (ban : Ban) (failed : Bool) : Ban := { ban with banned := ban.banned || failed }

variable {σ : Type} [Platform σ]

/-- A request breaks a ban, and a request that the platform refuses imposes one. -/
def once (address : String) (command : Command) (platform : σ) (ban : Ban) : Ban :=
  match command with
  | .enableLink other =>
    if other = address then
      ⟨ban.banned || (Platform.linkAnswer platform address).isRefused, ban.broken || ban.banned⟩
    else ban
  | _ => ban

def after (address : String) : List Command → σ → Ban → Ban
  | [], _, ban => ban
  | command :: commands, platform, ban =>
    after address commands (Platform.carryOut command platform) (ban.once address command platform)

theorem after_append (address : String) (first last : List Command) (platform : σ) (ban : Ban) :
    after address (first ++ last) platform ban =
      after address last (first.foldl (fun platform command => Platform.carryOut command platform)
        platform) (after address first platform ban) := by
  induction first generalizing platform ban with
  | nil => rfl
  | cons command first ih => exact ih _ _

theorem after_other {commands : List Command}
    (h : ∀ command ∈ commands, command.isRequest = false) (address : String) (platform : σ)
    (ban : Ban) : after address commands platform ban = ban := by
  induction commands generalizing platform ban with
  | nil => rfl
  | cons command commands ih =>
    have hOther := h command List.mem_cons_self
    rw [after, ih fun later hMem => h later (List.mem_cons_of_mem command hMem)]
    cases command <;> first | rfl | cases hOther

end Ban

theorem AsksFor.ban {σ : Type} [Platform σ] {other : String} {refused : Bool}
    {before after : Host σ} (h : AsksFor other refused before after) :
    ∃ (issued : List Command) (platform : σ), Issued issued before after ∧
      (Platform.linkAnswer platform other).isRefused = refused ∧
      ∀ address (ban : Ban), ban.after address issued before.platform =
        ban.once address (.enableLink other) platform := by
  obtain ⟨middle, ⟨issued, hBefore, hOther⟩, hAnswer, hAfter⟩ := h
  refine ⟨issued ++ [.enableLink other], middle.platform, hBefore.trans hAfter, hAnswer, ?_⟩
  intro address ban
  rw [Ban.after_append, Ban.after_other hOther, ← hBefore.platform]
  rfl

/-- The ban holds, and it stands for the failure marks: a marked address is banned, and a banned one
is marked or belongs to no connected headset. -/
structure Bars (address : String) (ban : Ban) (tracker : Tracker) : Prop where
  kept : ban.broken = false
  marked : address ∈ tracker.failed → ban.banned = true
  barred : ban.banned = true → address ∈ tracker.failed ∨ address ∉ tracker.addresses

namespace Bars

variable {address : String} {ban : Ban} {before after : Tracker}

theorem congr (h : Bars address ban before) (hHeadsets : after.headsets = before.headsets)
    (hFailed : after.failed = before.failed) : Bars address ban after := by
  obtain ⟨hKept, hMarked, hBarred⟩ := h
  rw [← hFailed] at hMarked hBarred
  rw [Tracker.addresses, ← hHeadsets] at hBarred
  exact ⟨hKept, hMarked, hBarred⟩

/-- Another headset's mark is of no account. -/
theorem forgive (h : Bars address ban before) {device : Device}
    (hOther : device.address? ≠ some address) : Bars address ban (before.forgive device) := by
  rw [Tracker.forgive]
  cases hDevice : device.address? with
  | none => exact h
  | some other =>
    have hNew : address ≠ other := fun hSame => hOther (hSame ▸ hDevice)
    simp only
    split
    · refine ⟨h.kept, fun hMem => h.marked (Tracker.mem_clearFailure_iff.mp hMem).1, ?_⟩
      exact fun hBanned => (h.barred hBanned).imp_left
        fun hMem => Tracker.mem_clearFailure_iff.mpr ⟨hMem, hNew⟩
    · exact h

theorem lift (h : Bars address ban before) (hFree : address ∉ after.failed) :
    Bars address ban.lift after :=
  ⟨h.kept, fun hMem => absurd hMem hFree, by rintro ⟨⟩⟩

theorem free (h : Bars address ban before) (hKnown : address ∈ before.addresses)
    (hFree : address ∉ before.failed) : ban.banned = false := by
  refine Bool.eq_false_iff.mpr fun hBanned => ?_
  exact (h.barred hBanned).elim hFree (fun hGone => hGone hKnown)

theorem impose (h : Bars address ban before) (hHeadsets : after.headsets = before.headsets)
    (hMarked : ∀ other ∈ before.failed, other ∈ after.failed) :
    Bars address (ban.impose (address ∈ after.failed)) after := by
  refine ⟨h.kept, fun hMem => by simp [Ban.impose, hMem], fun hBanned => ?_⟩
  by_cases hMem : address ∈ after.failed
  · exact .inl hMem
  · rcases h.barred (by simpa [Ban.impose, hMem] using hBanned) with hOld | hGone
    · exact .inl (hMarked address hOld)
    · refine .inr ?_
      rwa [Tracker.addresses, hHeadsets]

variable {σ : Type} [Platform σ]

/-- A headset that may be asked for its link does not break the ban, and none comes of it if the
request is granted. -/
theorem granted (h : Bars address ban before) {other : String} (hKnown : other ∈ before.addresses)
    (hFree : other ∉ before.failed) {platform : σ}
    (hGranted : (Platform.linkAnswer platform other).isRefused = false) :
    ban.once address (.enableLink other) platform = ban := by
  by_cases hOther : other = address
  · subst hOther
    have hUnbanned := h.free hKnown hFree
    obtain ⟨banned, broken⟩ := ban
    obtain rfl : banned = false := hUnbanned
    simp [Ban.once, hGranted]
  · exact if_neg hOther

theorem refused (h : Bars address ban before) {other : String} (hKnown : other ∈ before.addresses)
    (hFree : other ∉ before.failed) {platform : σ}
    (hRefused : (Platform.linkAnswer platform other).isRefused = true)
    (hHeadsets : after.headsets = before.headsets)
    (hFailed : after.failed = (before.markFailed other).failed) :
    Bars address (ban.once address (.enableLink other) platform) after := by
  have hMem : address ∈ after.failed ↔ address = other ∨ address ∈ before.failed := by
    rw [hFailed, Tracker.mem_markFailed_iff]
  by_cases hOther : other = address
  · subst hOther
    have hUnbanned := h.free hKnown hFree
    refine ⟨?_, fun _ => ?_, fun _ => .inl (hMem.mpr (.inl rfl))⟩
    · simp [Ban.once, hUnbanned, h.kept]
    · simp [Ban.once, hRefused]
  · have hSame : ban.once address (.enableLink other) platform = ban := if_neg hOther
    rw [hSame]
    refine ⟨h.kept, fun hMarked => h.marked ?_, fun hBanned => ?_⟩
    · exact (hMem.mp hMarked).resolve_left fun hSelf => hOther hSelf.symm
    · rcases h.barred hBanned with hOld | hGone
      · exact .inl (hMem.mpr (.inr hOld))
      · refine .inr ?_
        rwa [Tracker.addresses, hHeadsets]

end Bars

/-- Only a connection makes a headset without a mark out of one that has it. -/
theorem Tracker.barred_apply {tracker : Tracker} {address : String}
    (h : address ∈ tracker.failed ∨ address ∉ tracker.addresses) {event : BluetoothEvent}
    (hOther : ∀ headset, event = .connected headset → headset.address ≠ address) :
    address ∈ (tracker.apply event).failed ∨ address ∉ (tracker.apply event).addresses := by
  cases event with
  | connected headset =>
    have hNew : address ≠ headset.address := fun hSame => hOther headset rfl hSame.symm
    refine h.imp (fun hMem => mem_clearFailure_iff.mpr ⟨hMem, hNew⟩) fun hGone hMem => ?_
    rcases List.mem_cons.mp hMem with hSame | hOld
    · exact hNew hSame
    · exact hGone (mem_forget_iff.mp hOld).1
  | disconnected other =>
    rw [apply]
    split
    · exact h
    by_cases hSame : address = other
    · exact .inr fun hMem => (mem_forget_iff.mp hMem).2 hSame
    · exact h.imp (fun hMem => mem_clearFailure_iff.mpr ⟨hMem, hSame⟩)
        fun hGone hMem => hGone (mem_forget_iff.mp hMem).1
  | audioFailed other =>
    rw [apply]
    split
    · exact h
    · exact h.imp_left fun hMem => mem_markFailed_iff.mpr (.inr hMem)
  | _ =>
    rw [apply]
    split <;> exact h

namespace Switch

variable {σ : Type} {order : PreferredOrder} {switch before middle after : Switch σ}
  {address : String} {ban : Ban} {now : Nat}

/-- Whether a callback is taken note of that connects a headset with this address. -/
def connects (switch : Switch σ) (address : String) (callback : Callback) : Bool :=
  match callback.report with
  | .bluetooth (.connected headset) =>
    callback.session = switch.session && switch.phase ≠ .stopped && switch.tracker.listening &&
      headset.address = address
  | _ => false

def hearBan (switch : Switch σ) (address : String) (callback : Callback) (ban : Ban) : Ban :=
  (if switch.connects address callback then ban.lift else ban).impose
    (address ∈ (switch.applyCallback callback).2.tracker.failed)

def hearBans (address : String) : List Callback → Switch σ → Ban → Ban
  | [], _, ban => ban
  | callback :: callbacks, switch, ban =>
    hearBans address callbacks (switch.applyCallback callback).2
      (switch.hearBan address callback ban)

theorem bars_applyCallback (h : Bars address ban switch.tracker) (callback : Callback) :
    Bars address (switch.hearBan address callback ban)
      (switch.applyCallback callback).2.tracker := by
  refine ⟨?_, fun hMem => ?_, fun hBanned => ?_⟩
  · rw [hearBan]
    split <;> exact h.kept
  · simp [hearBan, Ban.impose, hMem]
  · by_cases hMem : address ∈ (switch.applyCallback callback).2.tracker.failed
    · exact .inl hMem
    have hHeard : switch.connects address callback = false ∧ ban.banned = true := by
      simp only [hearBan, Ban.impose, hMem, decide_false, Bool.or_false] at hBanned
      split at hBanned
      · cases hBanned
      · rename_i hNot
        exact ⟨by simpa using hNot, hBanned⟩
    obtain ⟨hNot, hBefore⟩ := hHeard
    rcases applyCallback_cases switch callback with
      ⟨wired, lines, hEq⟩ | ⟨event, report, rfl, hRunning, hListening, hReport, hEq⟩
    · rw [hEq]
      exact h.barred hBefore
    · obtain ⟨_, _, hTracker, _⟩ := applyBluetooth_eq hListening hReport
      rw [hEq, hTracker]
      refine Tracker.barred_apply (h.barred hBefore) ?_
      rintro headset rfl rfl
      simp [connects, hRunning, hListening] at hNot

theorem bars_applyCallbacks (h : Bars address ban switch.tracker) (callbacks : List Callback) :
    Bars address (hearBans address callbacks switch ban)
      (callbacks.foldl (fun switch callback => (switch.applyCallback callback).2)
        switch).tracker := by
  induction callbacks generalizing switch ban with
  | nil => exact h
  | cons callback callbacks ih => exact ih (bars_applyCallback h callback)

variable [Platform σ]

def banHeard (switch : Switch σ) (address : String) (beat : Beat) (ban : Ban) : Ban :=
  match beat with
  | .callback _ =>
    match switch.host.queue with
    | [] => ban
    | callback :: rest => (switch.requeue rest).hearBan address callback ban
  | .poll now =>
    ban.impose (switch.tracker.listening &&
      address ∈ (switch.tracker.checkTimeout now switch.host).2.1.failed)
  | .act (.start listener) _ =>
    if switch.phase ≠ .stopped then ban
    else
      let begun := (switch.enter listener).startBluetooth.startWired
      hearBans address begun.host.queue (begun.requeue []) ban
  | .act (.select device) _ =>
    if device ∈ switch.selector.available ∧ device.address? = some address then ban.lift else ban
  | .act .stop _ => ban.lift
  | _ => ban

def banAfter (address : String) (switch : Switch σ) (beat : Beat) (ban : Ban) : Ban :=
  (switch.banHeard address beat ban).after address
    ((switch.beat beat).host.commands.drop switch.host.commands.length) switch.host.platform

/-- Whatever ban holds before, it holds after what the platform was told in between. -/
def Abides (address : String) (before after : Switch σ) : Prop :=
  ∀ ban, Bars address ban before.tracker → ∃ issued, Issued issued before.host after.host ∧
    Bars address (ban.after address issued before.host.platform) after.tracker

theorem Abides.trans (h : before.Abides address middle) (h' : middle.Abides address after) :
    before.Abides address after := by
  intro ban hBars
  obtain ⟨first, hFirst, hMiddle⟩ := h ban hBars
  obtain ⟨last, hLast, hAfter⟩ := h' _ hMiddle
  refine ⟨first ++ last, hFirst.trans hLast, ?_⟩
  rw [Ban.after_append, ← hFirst.platform]
  exact hAfter

theorem abides_of_nobody (hNobody : AsksNobody before.host after.host)
    (hHeadsets : after.tracker.headsets = before.tracker.headsets)
    (hFailed : after.tracker.failed = before.tracker.failed) : before.Abides address after := by
  intro ban hBars
  obtain ⟨issued, hIssued, hOther⟩ := hNobody
  refine ⟨issued, hIssued, ?_⟩
  rw [Ban.after_other hOther]
  exact hBars.congr hHeadsets hFailed

theorem Abides.refl (switch : Switch σ) : switch.Abides address switch :=
  abides_of_nobody (.refl _) rfl rfl

theorem abides_recompute (switch : Switch σ) (rejected : List Device) :
    switch.Abides address (switch.recompute rejected) :=
  abides_of_nobody (.of_mute (.writeAll _ _)) rfl rfl

theorem abides_announce (switch : Switch σ) (view : List Device × Option Device) :
    switch.Abides address (switch.announce view) := by
  have hMute : AsksNobody switch.host (switch.announce view).host :=
    .of_mute (issued_announce switch view)
  revert hMute
  rw [announce]
  split
  · exact fun _ => .refl switch
  · exact fun hMute => abides_of_nobody hMute rfl rfl

theorem abides_fallBack (switch : Switch σ) (device : Device) (rejected : List Device) :
    switch.Abides address (switch.fallBack device rejected) := by
  have hTold : switch.Abides address
      ((switch.unpin device).notifyHeadset ⟨.activationError, device⟩) :=
    abides_of_nobody (.of_mute (issued_notifyHeadset (switch.unpin device) _)) rfl rfl
  exact hTold.trans (abides_recompute _ rejected)

/-- The selected headset did not fail, so that asking it for its link breaks no ban; if it is
refused, it is marked and banned. -/
theorem Poised.abides_routeOnce (h : switch.Poised) (now : Nat) :
    switch.Abides address (switch.routeOnce now).2 := by
  have hHeadsets := (reroutes_routeOnce switch now).steps.headsets.2.1
  have hOk : (switch.routeOnce now).1 = .ok () →
      (switch.routeOnce now).2.tracker.failed = switch.tracker.failed := h.failed_routeOnce
  rcases h.attempt_routeOnce now with
    ⟨hResult, hNobody⟩ | ⟨headset, hSelected, hAttempt⟩
  · exact abides_of_nobody hNobody hHeadsets (hOk hResult)
  obtain ⟨hMem, hFree⟩ := h.settled.headset_mem hSelected
  have hKnown := Tracker.mem_addresses hMem
  generalize hResult : (switch.routeOnce now).1 = result at hAttempt
  cases hAttempt with
  | spared hNobody => exact abides_of_nobody hNobody hHeadsets (hOk hResult)
  | granted hAsks =>
    intro ban hBars
    obtain ⟨issued, platform, hIssued, hGranted, hAfter⟩ := AsksFor.ban hAsks
    refine ⟨issued, hIssued, ?_⟩
    rw [hAfter, hBars.granted hKnown hFree hGranted]
    exact hBars.congr hHeadsets (hOk hResult)
  | refused error hAsks =>
    intro ban hBars
    obtain ⟨issued, platform, hIssued, hRefused, hAfter⟩ := AsksFor.ban hAsks
    obtain ⟨other, hOther, _, _, hFailed⟩ := Route.routeTo_error (fun _ => h.selected_known) hResult
    cases hSelected.symm.trans hOther
    refine ⟨issued, hIssued, ?_⟩
    rw [hAfter]
    exact hBars.refused hKnown hFree hRefused hHeadsets hFailed

theorem Poised.abides_routeWithin (h : switch.Poised) {rejected : List Device}
    (hRejected : ∀ device ∈ rejected, switch.fails device = true) (tries now : Nat) :
    switch.Abides address (switch.routeWithin tries rejected now) := by
  induction tries generalizing switch rejected with
  | zero => exact .refl switch
  | succ tries ih =>
    have hOnce : switch.Abides address (switch.routeOnce now).2 := h.abides_routeOnce now
    cases hResult : (switch.routeOnce now).1 with
    | ok =>
      rw [routeWithin_ok hResult]
      exact hOnce
    | error error =>
      obtain ⟨device, hSelected, hFresh, hNext, _, _, hFails⟩ :=
        h.routeOnce_error hResult hRejected
      rw [routeWithin_error hResult hSelected]
      simp only [if_neg hFresh]
      have hWritten : (switch.routeOnce now).2.Abides address
          ((switch.routeOnce now).2.write (unroutedLine device error)) :=
        abides_of_nobody (.write _ _) rfl rfl
      exact ((hOnce.trans hWritten).trans (abides_fallBack _ device _)).trans (ih hNext hFails)

theorem Steady.abides_reselect (h : Steady order switch) (hUnspoiled : switch.Unspoiled)
    (now : Nat) : switch.Abides address ((switch.recompute []).applyRoute now) :=
  (abides_recompute switch []).trans ((h.poised hUnspoiled).abides_routeWithin (by simp) _ now)

theorem Steady.abides_refreshSince (h : Steady order switch) (hUnspoiled : switch.Unspoiled)
    (view : List Device × Option Device) (now : Nat) :
    switch.Abides address (switch.refreshSince view now) :=
  (h.abides_reselect hUnspoiled now).trans (abides_announce _ view)

/-- A beat hears of something, keeping the ban or changing it, and then routes. -/
theorem bars_beat {beat : Beat} {heard : Switch σ} (hNobody : AsksNobody switch.host heard.host)
    (hHeard : Bars address (switch.banHeard address beat ban) heard.tracker)
    (hAbides : heard.Abides address (switch.beat beat)) :
    Bars address (switch.banAfter address beat ban) (switch.beat beat).tracker := by
  obtain ⟨first, hFirst, hOther⟩ := hNobody
  obtain ⟨last, hLast, hAfter⟩ := hAbides _ hHeard
  have hCommands : (switch.beat beat).host.commands.drop switch.host.commands.length =
      first ++ last := by
    rw [(hFirst.trans hLast).commands, List.drop_left]
  rw [banAfter, hCommands, Ban.after_append, Ban.after_other hOther, ← hFirst.platform]
  exact hAfter

theorem bars_beat_of_abides {beat : Beat} (h : Bars address ban switch.tracker)
    (hSame : switch.banHeard address beat ban = ban)
    (hAbides : switch.Abides address (switch.beat beat)) :
    Bars address (switch.banAfter address beat ban) (switch.beat beat).tracker :=
  bars_beat (.refl _) (hSame.symm ▸ h) hAbides

theorem Consistent.bars_next (h : Consistent order switch)
    (hBars : Bars address ban switch.tracker) (now : Nat) :
    Bars address (switch.banAfter address (.callback now) ban)
      (switch.beat (.callback now)).tracker := by
  cases hQueue : switch.host.queue with
  | nil =>
    have hIdle : switch.beat (.callback now) = switch := by
      rw [Switch.beat, next?, hQueue]
      rfl
    refine bars_beat_of_abides hBars (by simp [banHeard, hQueue]) ?_
    rw [hIdle]
    exact .refl switch
  | cons callback rest =>
    have hNext : switch.beat (.callback now) = (switch.requeue rest).handle callback now := by
      rw [Switch.beat, next?, hQueue]
      rfl
    have hTaken : Consistent order (switch.requeue rest) := h.requeue rest
    have hTakenHost : Issued [] switch.host (switch.requeue rest).host := .of_same rfl rfl
    have hMute : AsksNobody switch.host ((switch.requeue rest).applyCallback callback).2.host :=
      .of_mute (hTakenHost.trans (issued_applyCallback (switch.requeue rest) callback))
    have hHeard : Bars address (switch.banHeard address (.callback now) ban)
        ((switch.requeue rest).applyCallback callback).2.tracker := by
      have hTracker : Bars address ban (switch.requeue rest).tracker := hBars
      simpa [banHeard, hQueue] using bars_applyCallback hTracker callback
    refine bars_beat hMute hHeard ?_
    rw [hNext]
    cases hChanged : ((switch.requeue rest).applyCallback callback).1 with
    | false =>
      rw [handle_unchanged hChanged]
      exact .refl _
    | true =>
      rw [handle_changed hChanged]
      exact (hTaken.toSteady.applyCallback callback).abides_refreshSince
        (hTaken.unspoiled.applyCallback hTaken.sound hTaken.anchored callback) _ now

theorem Consistent.bars_poll (h : Consistent order switch)
    (hBars : Bars address ban switch.tracker) (now : Nat) :
    Bars address (switch.banAfter address (.poll now) ban) (switch.beat (.poll now)).tracker := by
  cases hListening : switch.tracker.listening with
  | false =>
    have hIdle : switch.beat (.poll now) = switch := by simp [Switch.beat, Switch.poll, hListening]
    refine bars_beat_of_abides hBars (by simp [banHeard, hListening, Ban.impose]) ?_
    rw [hIdle]
    exact .refl switch
  | true =>
    have hRunning : switch.phase ≠ .stopped := fun hStopped => by
      simp [(h.stopped hStopped).1] at hListening
    have hNobody := AsksNobody.checkTimeout switch.tracker now switch.host
    obtain ⟨_, hHeadsets, hMarked⟩ :=
      (Tracker.checkTimeout_steps switch.tracker now switch.host).headsets
    have hHeard : Bars address (switch.banHeard address (.poll now) ban)
        (switch.tracker.checkTimeout now switch.host).2.1 := by
      simpa [banHeard, hListening] using hBars.impose hHeadsets hMarked
    rcases checkTimeout_cases h.sound now switch.host with
      hQuiet | ⟨headset, since, late, hLink, hFound, hLate⟩
    · have hIdle : switch.beat (.poll now) = switch := by
        simp [Switch.beat, Switch.poll, hListening, hQuiet]
      rw [hQuiet] at hHeard
      refine bars_beat (.refl _) hHeard ?_
      rw [hIdle]
      exact .refl switch
    · rw [hLate] at hHeard hNobody
      obtain ⟨hSteady, hUnspoiled, _⟩ := h.yield hRunning hLink hFound late
      have hPoll : switch.beat (.poll now) = _ := poll_late hListening hLate
      generalize hEvent : HeadsetEvent.mk .activationError (.bluetoothHeadset headset) = event at *
      generalize hFailed : ({ switch with
        tracker := switch.tracker.markFailed headset.address, host := late } : Switch σ) = failed at *
      obtain ⟨_, _, hTracker, _⟩ := yieldFailed_eq (failed.notifyHeadset event) event
      have hYielded : AsksNobody switch.host ((failed.notifyHeadset event).yieldFailed event).host := by
        have hFailedHost : AsksNobody switch.host failed.host := hFailed ▸ hNobody
        exact (hFailedHost.trans (.of_mute (issued_notifyHeadset failed event))).trans
          (.of_mute (issued_yieldFailed _ event))
      have hHeard : Bars address (switch.banHeard address (.poll now) ban)
          ((failed.notifyHeadset event).yieldFailed event).tracker := by
        rw [hTracker]
        exact hFailed ▸ hHeard
      refine bars_beat hYielded hHeard ?_
      rw [hPoll]
      exact hSteady.abides_refreshSince hUnspoiled _ now

/-- A session that begins hears the callbacks of registration and routes nothing yet. -/
theorem Consistent.bars_start (h : Consistent order switch)
    (hBars : Bars address ban switch.tracker) (listener : Option Nat) (now : Nat) :
    Bars address (switch.banAfter address (.act (.start listener) now) ban)
      (switch.start listener now).tracker := by
  by_cases hStopped : switch.phase = .stopped
  swap
  · have hSame : switch.start listener now =
        switch.write (.debug "Audio switch already started" [("state", switch.phase.name)]) :=
      if_pos hStopped
    refine bars_beat_of_abides hBars (if_pos hStopped) ?_
    rw [Switch.beat, act, hSame]
    exact abides_of_nobody (.write _ _) rfl rfl
  obtain ⟨hBegun, hUnspoiled, _⟩ := h.begin hStopped listener
  obtain ⟨_, hEntered, _, _, _, line, hHost⟩ := enter_eq switch listener
  obtain ⟨_, _, hBluetooth, _⟩ := startBluetooth_eq (switch.enter listener)
  obtain ⟨_, _, hWired⟩ := startWired_eq (switch.enter listener).startBluetooth
  have hNobody : AsksNobody switch.host (switch.enter listener).startBluetooth.startWired.host := by
    have hWritten : AsksNobody switch.host (switch.enter listener).host := hHost ▸ .write _ line
    exact (hWritten.trans (asksNobody_startBluetooth _)).trans (asksNobody_startWired _)
  have hRegistered : Bars address ban
      (switch.enter listener).startBluetooth.startWired.tracker := by
    have hSame : Bars address ban (switch.enter listener).tracker := by rwa [hEntered]
    rw [hWired, hBluetooth]
    exact hSame.congr rfl rfl
  have hHeard : Bars address (switch.banHeard address (.act (.start listener) now) ban)
      (switch.enter listener).startBluetooth.startWired.absorb.tracker := by
    rw [banHeard, if_neg (not_not.mpr hStopped)]
    generalize (switch.enter listener).startBluetooth.startWired = registered at *
    have hTaken : Bars address ban (registered.requeue []).tracker := hRegistered
    exact bars_applyCallbacks hTaken registered.host.queue
  have hStart : switch.beat (.act (.start listener) now) =
      (((switch.enter listener).startBluetooth.startWired.absorb.recompute []).applyRoute
        now).notifyDevices := if_neg (not_not.mpr hStopped)
  refine bars_beat (hNobody.trans (asksNobody_absorb _)) hHeard ?_
  rw [hStart]
  exact (hBegun.abides_reselect hUnspoiled now).trans
    (abides_of_nobody (.of_mute (issued_notifyDevices _)) rfl rfl)

theorem Consistent.abides_engage (h : Consistent order switch) (now : Nat) :
    switch.Abides address (switch.engage now).2 := by
  have hTaken := activate_eq switch.route switch.host
  have hNobody := switch.asksNobody_activate
  rw [Switch.engage]
  split
  · exact .refl switch
  rename_i hRunning
  generalize switch.route.activate switch.host = taken at *
  obtain ⟨result, route, host⟩ := taken
  obtain ⟨_, hRouted, _⟩ := hTaken
  have hEngaged : switch.Abides address { switch with phase := .activated, route, host } :=
    abides_of_nobody hNobody rfl rfl
  cases result with
  | error error => exact hEngaged.trans (abides_of_nobody (.write _ _) rfl rfl)
  | ok =>
    have hPoised : ({ switch with phase := .activated, route, host } : Switch σ).Poised :=
      ⟨h.sound, (h.settled hRunning).congr rfl rfl rfl rfl, hRouted.symm ▸ h.pending⟩
    exact (hEngaged.trans (hPoised.abides_routeWithin (by simp) _ now)).trans (abides_announce _ _)

theorem Steady.abides_disengage (h : Steady order switch) :
    switch.Abides address switch.disengage := by
  obtain ⟨_, _, _, hHeadsets, hFailed, _⟩ := h.deactivateRoute
  rw [Switch.disengage]
  split
  · exact .refl switch
  · exact abides_of_nobody switch.asksNobody_deactivateRoute hHeadsets hFailed

/-- A headset that was chosen by hand gets another chance, and no other one does. -/
theorem Consistent.bars_choose (h : Consistent order switch)
    (hBars : Bars address ban switch.tracker) (device : Device) (now : Nat) :
    Bars address (switch.banAfter address (.act (.select device) now) ban)
      (switch.choose device now).tracker := by
  by_cases hMem : device ∈ switch.selector.available
  swap
  · refine bars_beat_of_abides hBars (if_neg fun hChosen => hMem hChosen.1) ?_
    rw [Switch.beat, act, Switch.choose, if_pos hMem]
    split <;> exact abides_of_nobody (.write _ _) rfl rfl
  have hRunning : switch.phase ≠ .stopped := by
    intro hStopped
    rw [(h.stopped hStopped).2] at hMem
    cases hMem
  have hHeard : Bars address (switch.banHeard address (.act (.select device) now) ban)
      (switch.pinTo device).tracker := by
    rw [banHeard]
    split
    · rename_i hChosen
      exact hBars.lift (h.sound.not_mem_forgive hChosen.2)
    · rename_i hOther
      exact hBars.forgive fun hSame => hOther ⟨hMem, hSame⟩
  have hChoose : switch.beat (.act (.select device) now) =
      (switch.pinTo device).refreshSince switch.view now := by
    rw [Switch.beat, act, Switch.choose, if_neg hRunning, if_neg (not_not.mpr hMem)]
  have hMute : AsksNobody switch.host (switch.pinTo device).host := .refl _
  refine bars_beat hMute hHeard ?_
  rw [hChoose]
  exact (h.toSteady.pinTo hRunning device).abides_refreshSince (unspoiled_pinTo h.sound hMem) _ now

theorem Consistent.abides_unchoose (h : Consistent order switch) (now : Nat) :
    switch.Abides address (switch.unchoose now) := by
  rw [Switch.unchoose]
  split
  · exact .refl switch
  rename_i hPinned
  have hRunning : switch.phase ≠ .stopped := fun hStopped => hPinned (.inl hStopped)
  have hFreed : Steady order { switch with selector := switch.selector.clearPin } :=
    h.toSteady.reselect hRunning rfl rfl rfl rfl
  have hBefore : switch.Abides address { switch with selector := switch.selector.clearPin } :=
    abides_of_nobody (.refl _) rfl rfl
  exact hBefore.trans (hFreed.abides_refreshSince (unspoiled_of_free rfl) _ now)

theorem abides_resume (switch : Switch σ) : switch.Abides address switch.resume := by
  rw [resume]
  split
  · have hWritten : switch.Abides address
        (switch.write (.info "Bluetooth permission granted, starting headset tracking" [])) :=
      abides_of_nobody (.write _ _) rfl rfl
    obtain ⟨_, _, hEq, _⟩ := startBluetooth_eq
      (switch.write (.info "Bluetooth permission granted, starting headset tracking" []))
    refine hWritten.trans (abides_of_nobody (asksNobody_startBluetooth _) ?_ ?_) <;> rw [hEq]
  · exact .refl switch

theorem Consistent.bars_stop (h : Consistent order switch)
    (hBars : Bars address ban switch.tracker) (now : Nat) :
    Bars address (switch.banAfter address (.act .stop now) ban) switch.stop.tracker := by
  have hStopped : switch.stop.phase = .stopped := by
    rw [Switch.stop]
    split
    · assumption
    · rfl
  have hSilent := (h.stop.stopped hStopped).1
  refine bars_beat switch.asksNobody_stop (hBars.lift ?_) (.refl _)
  rw [h.stop.sound.failed_nil (h.stop.sound.silent hSilent)]
  exact List.not_mem_nil

theorem Consistent.bars_beat (h : Consistent order switch)
    (hBars : Bars address ban switch.tracker) (beat : Beat) :
    Bars address (switch.banAfter address beat ban) (switch.beat beat).tracker := by
  cases beat with
  | callback now => exact h.bars_next hBars now
  | poll now => exact h.bars_poll hBars now
  | act operation now =>
    cases operation with
    | start listener => exact h.bars_start hBars listener now
    | stop => exact h.bars_stop hBars now
    | activate => exact bars_beat_of_abides hBars rfl (h.abides_engage now)
    | deactivate => exact bars_beat_of_abides hBars rfl h.toSteady.abides_disengage
    | select device => exact h.bars_choose hBars device now
    | clearSelection => exact bars_beat_of_abides hBars rfl (h.abides_unchoose now)
    | hostResumed => exact bars_beat_of_abides hBars rfl (abides_resume switch)
    | _ => exact bars_beat_of_abides hBars rfl (abides_of_nobody (.of_mute (.of_same rfl rfl)) rfl rfl)

/-- A headset that failed is not tried again on its own. In every run, whatever is asked for, comes
in, times out or is refused: a headset that is marked as failed is banned, and none is asked for a
link while it is banned, that is, until it connects anew, is chosen by hand while it is available,
or the session is stopped. -/
theorem failed_headset_not_retried (config : SwitchConfig) (platform : σ) (moves : List (Move σ))
    (address : String) :
    let switch := (create config platform).run moves
    let ban := (create config platform).noteRun (banAfter address) .none moves
    ban.broken = false ∧ (address ∈ switch.tracker.failed → ban.banned = true) := by
  intro switch ban
  let kept (ban : Ban) (switch : Switch σ) : Prop :=
    Consistent config.order switch ∧ Bars address ban switch.tracker
  have hBeat : ∀ ban (switch : Switch σ) beat, kept ban switch →
      kept (switch.banAfter address beat ban) (switch.beat beat) :=
    fun _ _ beat h => ⟨h.1.beat beat, h.1.bars_beat h.2 beat⟩
  have hArrive : ∀ ban (switch : Switch σ) arrival, kept ban switch →
      (∀ operation now, arrival ≠ .operation operation now) → kept ban (switch.move arrival) := by
    intro ban switch arrival h hOwn
    refine ⟨h.1.move arrival, ?_⟩
    cases arrival with
    | operation operation now => exact absurd rfl (hOwn operation now)
    | _ => exact h.2
  have hBegin : kept .none (create config platform) :=
    ⟨consistent_create config platform, rfl, by simp [create, Tracker.idle], by rintro ⟨⟩⟩
  obtain ⟨_, hBars⟩ : kept ban switch := noteRun_induction (banAfter address) hBeat hArrive hBegin moves
  exact ⟨hBars.kept, hBars.marked⟩

/-- A refused headset that goes away is still banned; it is asked again once it comes back. -/
example : let config : SwitchConfig := ⟨.usual, usualLinkTimeout, true, false⟩
    let refusing : List (Move Handset) := [.operation (.start none) 0, .operation .activate 0,
      .platform ({ · with refusesLinks := true }),
      .callback ⟨1, .bluetooth (.connected ⟨"Buds", "AA"⟩)⟩, .operation .pump 0,
      .callback ⟨1, .bluetooth (.disconnected "AA")⟩, .operation .pump 0]
    let returning : List (Move Handset) := refusing ++ [.platform ({ · with refusesLinks := false }),
      .callback ⟨1, .bluetooth (.connected ⟨"Buds", "AA"⟩)⟩, .operation .pump 0]
    (create config Handset.fresh).noteRun (banAfter "AA") .none refusing = ⟨true, false⟩ ∧
      (create config Handset.fresh).noteRun (banAfter "AA") .none returning = .none ∧
      (((create config Handset.fresh).run returning).host.commands.count (.enableLink "AA")) = 2 := by
  decide

end Switch

end CallAudio
