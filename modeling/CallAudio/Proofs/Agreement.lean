import CallAudio.Proofs.Draining
import CallAudio.Proofs.Notices
import CallAudio.Proofs.Requests
import CallAudio.Proofs.Reselection

/-! # Agreement on what is selected

The simulated handset grants every request for a link, or it refuses every one. While it grants
them, the link and the routed device are of no account to what is selected next, and so are its
replies; while it refuses them, there are no replies. So two switches that agree on everything else
still agree after the same callback, whenever it is applied.
-/

namespace CallAudio

def Switch.KnowsEarpiece {σ : Type} [Platform σ] (switch : Switch σ) : Prop :=
  .earpiece ∈ switch.selector.available ↔ Platform.hasEarpiece switch.host.platform = true

instance {σ : Type} [Platform σ] (switch : Switch σ) : Decidable switch.KnowsEarpiece :=
  inferInstanceAs (Decidable (_ ↔ _))

/-- Selecting anew changes nothing while the devices are those of the last selection. -/
theorem Switch.Settled.selector_recompute {σ : Type} [Platform σ] {switch : Switch σ}
    (h : switch.Settled) (hSound : switch.tracker.Sound) (hEarpiece : switch.KnowsEarpiece) :
    (switch.recompute []).selector = switch.selector := by
  obtain ⟨earpiece, hAvailable⟩ := h.available
  obtain ⟨device, hMem, hSelected, hUnfailed⟩ := h.selected
  have hExcluded : switch.excludes [] = switch.fails := excludes_eq_fails hSound (by simp)
  have hOffered : .earpiece ∈ switch.selector.available ↔ earpiece = true := by
    rw [hAvailable, PreferredOrder.mem_arrange]
    cases hWired : switch.wired.headset <;> simp [roster, WiredTracker.device?, hWired]
  have hCurrent : earpiece = Platform.hasEarpiece switch.host.platform :=
    Bool.eq_iff_iff.mpr (hOffered.symm.trans hEarpiece)
  refine Selector.recompute_of_settled ?_ (Selector.revalidate_mem hSelected hMem) ?_
  · rw [candidates_eq_roster hSound, ← hCurrent, hAvailable]
  · rw [hExcluded, Selector.choice]
    cases hPinned : switch.selector.pinned with
    | true => rfl
    | false =>
      rw [h.best hPinned]
      exact bestDevice?_eq_find? ⟨device, hMem, hUnfailed⟩

/-- Then a refresh changes nothing but the log, if the selected device is heard. -/
theorem Switch.Settled.refresh_still {σ : Type} [Platform σ] {switch : Switch σ}
    (h : switch.Settled) (hSound : switch.tracker.Sound) (hEarpiece : switch.KnowsEarpiece)
    (hHeard : switch.Heard) (now : Nat) :
    ∃ lines, switch.refresh now = { switch with host := switch.host.writeAll lines } := by
  let lines := switch.selector.remarks switch.candidates (switch.excludes [])
  let last : Switch σ := { switch with host := switch.host.writeAll lines }
  have hAgain : switch.recompute [] = last := by
    rw [show last = { switch.recompute [] with selector := switch.selector } from rfl,
      ← h.selector_recompute hSound hEarpiece]
  have hIdle : last.route.isRouting = false ∨ last.route.routed = last.selector.selected := by
    by_cases hRouting : switch.route.isRouting = true
    · exact .inr (hHeard hRouting)
    · exact .inl (Bool.not_eq_true _ ▸ hRouting)
  refine ⟨lines, ?_⟩
  rw [refresh, refreshSince, hAgain, applyRoute_idle hIdle]
  exact if_pos rfl

namespace Host

def terms (host : Host Handset) : Bool × Bool :=
  (host.platform.hasEarpiece, host.platform.refusesLinks)

end Host

theorem Issued.terms {issued : List Command} {before after : Host Handset}
    (h : Issued issued before after) : after.terms = before.terms := by
  obtain ⟨_, _, hCarried⟩ := Handset.carried issued before.platform
  rw [Host.terms, h.platform, hCarried]
  rfl

theorem LinkSteps.terms {before after : Tracker × Host Handset} (h : LinkSteps before after) :
    after.2.terms = before.2.terms := by
  obtain ⟨_, _, hIssued⟩ := h.issued
  exact hIssued.terms

theorem Host.isRefused_linkAnswer (host : Host Handset) (address : String) :
    (Platform.linkAnswer host.platform address).isRefused = host.terms.2 := by
  change (Handset.linkAnswer host.platform).isRefused = host.platform.refusesLinks
  rw [Handset.linkAnswer]
  cases host.platform.refusesLinks with
  | true => rfl
  | false => cases host.platform.confirmsLinks <;> rfl

theorem Host.enableLink_refused {host : Host Handset} (hRefuses : host.terms.2 = true)
    (address : String) :
    (∃ reason, (host.enableLink address).1 = .error reason) ∧
      (host.enableLink address).2.queue = host.queue := by
  have hAnswer := host.isRefused_linkAnswer address
  rw [hRefuses] at hAnswer
  rw [enableLink]
  cases hRefused : Platform.linkAnswer host.platform address with
  | refused reason => exact ⟨⟨reason, rfl⟩, rfl⟩
  | _ =>
    rw [hRefused] at hAnswer
    cases hAnswer

theorem LinkSteps.queue_refused {before after : Tracker × Host Handset}
    (h : LinkSteps before after) (hRefuses : before.2.terms.2 = true) :
    after.2.queue = before.2.queue := by
  let kept (middle : Tracker × Host Handset) : Prop :=
    middle.2.queue = before.2.queue ∧ middle.2.terms.2 = true
  have hStep : ∀ middle next, LinkStep middle next → kept middle → kept next := by
    rintro middle next hNext ⟨hQueue, hStill⟩
    refine ⟨Eq.trans ?_ hQueue, by rw [LinkSteps.terms (.single hNext), hStill]⟩
    cases hNext with
    | write tracker host line => exact Host.queue_write host line
    | «open» tracker host address _ _ _ hOk =>
      obtain ⟨⟨reason, hError⟩, _⟩ := Host.enableLink_refused hStill address
      cases hOk.symm.trans hError
    | refuse tracker host address => exact (Host.enableLink_refused hStill address).2
    | _ => rfl
  exact (h.keeps hStep ⟨rfl, hRefuses⟩).1

/-- A sequence of routing steps that marks nobody changes nothing but the link. -/
theorem LinkSteps.relinks {σ : Type} [Platform σ] {before after : Tracker × Host σ}
    (h : LinkSteps before after) (hFailed : after.1.failed = before.1.failed) :
    after.1 = { before.1 with link := after.1.link } := by
  obtain ⟨hListening, hHeadsets, _⟩ := h.headsets
  have hTimeout := h.registrations.2
  obtain ⟨⟨listening, headsets, link, failed, timeout⟩, host⟩ := after
  simp only at hListening hHeadsets hFailed hTimeout
  subst hListening hHeadsets hFailed hTimeout
  rfl

namespace Tracker

variable {tracker : Tracker} {here there : Host Handset}

theorem report?_relinked (tracker : Tracker) (event : BluetoothEvent) (link : Link) :
    ({ tracker with link } : Tracker).report? event = tracker.report? event := by
  cases event <;> rfl

/-- Of what an event does, only the link depends on the link. -/
theorem apply_relinked (tracker : Tracker) (event : BluetoothEvent) (link : Link) :
    ({ tracker with link } : Tracker).apply event =
      { tracker.apply event with link := (({ tracker with link } : Tracker).apply event).link } := by
  cases event with
  | connected headset => rfl
  | _ other =>
    have hFound : ({ tracker with link } : Tracker).find? other = tracker.find? other := rfl
    rw [apply, apply, hFound]
    split <;> rfl

theorem requestLink_refused (hRefuses : here.terms.2 = true) (tracker : Tracker) (address : String)
    (now : Nat) :
    (tracker.requestLink address now here).1 = .error (.linkFailed address) ∧
      (tracker.requestLink address now here).2.1 = tracker.markFailed address := by
  have hWritten : (here.write (.debug "Attempting to enable Bluetooth SCO"
      [("address", address)])).terms.2 = true := by
    rw [(Issued.write here _).terms, hRefuses]
  obtain ⟨⟨reason, hError⟩, _⟩ := Host.enableLink_refused hWritten address
  rw [requestLink]
  generalize (here.write _).enableLink address = asked at *
  obtain ⟨result, asked⟩ := asked
  cases hError
  exact ⟨rfl, rfl⟩

theorem openLink_refused (hHere : here.terms.2 = true) (hThere : there.terms.2 = true)
    (tracker : Tracker) (address : String) (now later : Nat) :
    (tracker.openLink address later there).1 = (tracker.openLink address now here).1 ∧
      (tracker.openLink address later there).2.1 = (tracker.openLink address now here).2.1 := by
  rw [openLink, openLink]
  split
  · exact ⟨rfl, rfl⟩
  split
  · exact ⟨rfl, rfl⟩
  have hClosed : ∀ {host : Host Handset}, host.terms.2 = true →
      (tracker.closeLink host).2.terms.2 = true := by
    intro host hRefuses
    rw [(Issued.closeLink tracker host).terms, hRefuses]
  obtain ⟨hResult, hTracker⟩ :=
    requestLink_refused (hClosed hHere) (tracker.closeLink here).1 address now
  obtain ⟨hResult', hTracker'⟩ :=
    requestLink_refused (hClosed hThere) (tracker.closeLink there).1 address later
  rw [hResult, hResult', hTracker, hTracker', fst_closeLink, fst_closeLink]
  exact ⟨rfl, rfl⟩

end Tracker

namespace Route

variable {here there : Host Handset}

theorem terms_vacate (route : Route) (next : Option Device) (tracker : Option Tracker)
    (host : Host Handset) : (route.vacate next tracker host).2.terms = host.terms := by
  obtain ⟨_, hIssued, _⟩ := AsksNobody.vacate route next tracker host
  exact hIssued.terms

theorem enable_refused (hHere : here.terms.2 = true) (hThere : there.terms.2 = true)
    (device : Device) (tracker : Option Tracker) (now later : Nat) :
    (enable device tracker later there).1 = (enable device tracker now here).1 ∧
      (enable device tracker later there).2.1 = (enable device tracker now here).2.1 := by
  cases device with
  | bluetoothHeadset headset =>
    cases tracker with
    | none => exact ⟨rfl, rfl⟩
    | some tracker =>
      have hWritten : ∀ {host : Host Handset} (line : LogLine), host.terms.2 = true →
          (host.write line).terms.2 = true := by
        intro host line hRefuses
        rw [(Issued.write host line).terms, hRefuses]
      obtain ⟨hResult, hTracker⟩ := Tracker.openLink_refused (hWritten _ hHere) (hWritten _ hThere)
        tracker headset.address now later
      exact ⟨hResult, congrArg some hTracker⟩
  | _ => exact ⟨rfl, rfl⟩

theorem routeTo_refused (hHere : here.terms.2 = true) (hThere : there.terms.2 = true)
    (route : Route) (device : Option Device) (tracker : Option Tracker) (now later : Nat) :
    let outcome := route.routeTo device tracker now here
    let other := route.routeTo device tracker later there
    other.result = outcome.result ∧ other.route = outcome.route ∧ other.tracker = outcome.tracker := by
  have hNear := terms_vacate route device tracker here
  have hFar := terms_vacate route device tracker there
  have hVacated : (route.vacate device tracker there).1 = (route.vacate device tracker here).1 := by
    rw [fst_vacate, fst_vacate]
  rw [routeTo, routeTo]
  split
  · exact ⟨rfl, rfl, rfl⟩
  generalize route.vacate device tracker here = near at *
  generalize route.vacate device tracker there = far at *
  obtain ⟨left, near⟩ := near
  obtain ⟨other, far⟩ := far
  obtain rfl : left = other := hVacated.symm
  cases device with
  | none => exact ⟨rfl, rfl, rfl⟩
  | some device =>
    obtain ⟨hResult, hTracker⟩ := enable_refused (hNear ▸ hHere) (hFar ▸ hThere) device left now later
    simp only at hResult hTracker ⊢
    rw [hResult]
    split <;> exact ⟨rfl, rfl, hTracker⟩

end Route

namespace Switch

/-- Two switches on handsets of the same terms that differ in nothing that decides what is selected.
If requests for links are refused, the link and the routed device are the same as well. -/
structure Concurs (here there : Switch Handset) : Prop where
  phase : there.phase = here.phase
  session : there.session = here.session
  wired : there.wired = here.wired
  selector : there.selector = here.selector
  tracker : there.tracker = { here.tracker with link := there.tracker.link }
  route : there.route = { here.route with routed := there.route.routed }
  terms : there.host.terms = here.host.terms
  strict : here.host.terms.2 = true → there.tracker.link = here.tracker.link ∧
    there.route.routed = here.route.routed

structure Agrees (here there : Switch Handset) : Prop extends Concurs here there where
  device : there.listeners.device = here.listeners.device
  notices : there.deviceNotices = here.deviceNotices

variable {here there near far switch : Switch Handset} {order : PreferredOrder} {now later : Nat}

theorem Concurs.refl (switch : Switch Handset) : switch.Concurs switch :=
  ⟨rfl, rfl, rfl, rfl, rfl, rfl, rfl, fun _ => ⟨rfl, rfl⟩⟩

theorem Concurs.symm (h : here.Concurs there) : there.Concurs here where
  phase := h.phase.symm
  session := h.session.symm
  wired := h.wired.symm
  selector := h.selector.symm
  tracker := by rw [h.tracker]
  route := by rw [h.route]
  terms := h.terms.symm
  strict hRefuses := by
    obtain ⟨hLink, hRouted⟩ := h.strict (h.terms ▸ hRefuses)
    exact ⟨hLink.symm, hRouted.symm⟩

theorem Concurs.trans (h : near.Concurs here) (h' : here.Concurs far) : near.Concurs far where
  phase := h'.phase.trans h.phase
  session := h'.session.trans h.session
  wired := h'.wired.trans h.wired
  selector := h'.selector.trans h.selector
  tracker := by rw [h'.tracker, h.tracker]
  route := by rw [h'.route, h.route]
  terms := h'.terms.trans h.terms
  strict hRefuses := by
    obtain ⟨hLink, hRouted⟩ := h.strict hRefuses
    obtain ⟨hLink', hRouted'⟩ := h'.strict (h.terms ▸ hRefuses)
    exact ⟨hLink'.trans hLink, hRouted'.trans hRouted⟩

theorem Concurs.refusing (h : here.Concurs there) (hRefuses : here.host.terms.2 = true) :
    there.tracker = here.tracker ∧ there.route = here.route := by
  obtain ⟨hLink, hRouted⟩ := h.strict hRefuses
  exact ⟨by rw [h.tracker, hLink], by rw [h.route, hRouted]⟩

/-- While requests are granted, the link and the routed device may be any. -/
theorem concurs_of_granting (hGrants : here.host.terms.2 = false)
    (hPhase : there.phase = here.phase) (hSession : there.session = here.session)
    (hWired : there.wired = here.wired) (hSelector : there.selector = here.selector)
    (hTracker : there.tracker = { here.tracker with link := there.tracker.link })
    (hRoute : there.route = { here.route with routed := there.route.routed })
    (hTerms : there.host.terms = here.host.terms) : here.Concurs there := by
  refine ⟨hPhase, hSession, hWired, hSelector, hTracker, hRoute, hTerms, fun hRefuses => ?_⟩
  cases hGrants.symm.trans hRefuses

/-- What passes between a switch and its host is of no account. -/
theorem concurs_rehost {host : Host Handset} (hTerms : host.terms = switch.host.terms) :
    switch.Concurs { switch with host } :=
  ⟨rfl, rfl, rfl, rfl, rfl, rfl, hTerms, fun _ => ⟨rfl, rfl⟩⟩

theorem concurs_issued {host : Host Handset} {issued : List Command}
    (h : Issued issued switch.host host) : switch.Concurs { switch with host } :=
  concurs_rehost h.terms

theorem Concurs.both (h : here.Concurs there) (hHere : here.Concurs near)
    (hThere : there.Concurs far) : near.Concurs far := (hHere.symm.trans h).trans hThere

theorem concurs_write (switch : Switch Handset) (line : LogLine) :
    switch.Concurs (switch.write line) := concurs_issued (.write switch.host line)

theorem concurs_notifyHeadset (switch : Switch Handset) (event : HeadsetEvent) :
    switch.Concurs (switch.notifyHeadset event) :=
  concurs_issued (switch.issued_notifyHeadset event)

theorem concurs_announce (switch : Switch Handset) (view : List Device × Option Device) :
    switch.Concurs (switch.announce view) := by
  rw [announce]
  split
  · exact .refl switch
  · exact concurs_issued switch.issued_notifyDevices

theorem Concurs.unpin (h : here.Concurs there) (device : Device) :
    (here.unpin device).Concurs (there.unpin device) :=
  ⟨h.phase, h.session, h.wired, congrArg (Selector.unpin · device) h.selector, h.tracker, h.route,
    h.terms, h.strict⟩

theorem candidates_of_terms (hTerms : there.host.terms = here.host.terms)
    (hVisible : there.tracker.visible = here.tracker.visible) (hWired : there.wired = here.wired) :
    there.candidates = here.candidates := by
  have hEarpiece : there.host.platform.hasEarpiece = here.host.platform.hasEarpiece :=
    congrArg Prod.fst hTerms
  change there.tracker.visible.map .bluetoothHeadset ++ there.wired.device?.toList ++
    (if there.host.platform.hasEarpiece then [.earpiece] else []) ++ [.speakerphone] = _
  rw [hVisible, hWired, hEarpiece]
  rfl

theorem Concurs.candidates (h : here.Concurs there) : there.candidates = here.candidates :=
  candidates_of_terms h.terms (by rw [h.tracker]; rfl) h.wired

theorem Concurs.excludes (h : here.Concurs there) (rejected : List Device) :
    there.excludes rejected = here.excludes rejected := by
  funext device
  rw [Switch.excludes, h.tracker]
  rfl

theorem terms_recompute (switch : Switch Handset) (rejected : List Device) :
    (switch.recompute rejected).host.terms = switch.host.terms := (Issued.writeAll _ _).terms

/-- Selecting anew depends on nothing else. -/
theorem Concurs.recompute (h : here.Concurs there) (rejected : List Device) :
    (here.recompute rejected).Concurs (there.recompute rejected) where
  phase := h.phase
  session := h.session
  wired := h.wired
  selector := by rw [Switch.recompute, Switch.recompute, h.candidates, h.excludes, h.selector]
  tracker := h.tracker
  route := h.route
  terms := by rw [terms_recompute, terms_recompute, h.terms]
  strict hRefuses := h.strict (terms_recompute here rejected ▸ hRefuses)

/-! ## The same callback -/

theorem Concurs.hear (h : here.Concurs there) (event : BluetoothEvent) :
    ({ here with
      tracker := here.tracker.apply event
      host := here.host.writeAll (here.tracker.remarks event) } : Switch Handset).Concurs
    { there with
      tracker := there.tracker.apply event
      host := there.host.writeAll (there.tracker.remarks event) } where
  phase := h.phase
  session := h.session
  wired := h.wired
  selector := h.selector
  tracker := by
    rw [h.tracker]
    exact here.tracker.apply_relinked event there.tracker.link
  route := h.route
  terms := by rw [(Issued.writeAll _ _).terms, (Issued.writeAll _ _).terms, h.terms]
  strict hRefuses := by
    rw [(Issued.writeAll here.host _).terms] at hRefuses
    refine ⟨?_, (h.strict hRefuses).2⟩
    rw [(h.refusing hRefuses).1]

theorem Concurs.yieldFailed (h : here.Concurs there) (event : HeadsetEvent) :
    (here.yieldFailed event).Concurs (there.yieldFailed event) := by
  rw [Switch.yieldFailed, Switch.yieldFailed]
  split
  · exact (h.both (concurs_write here _) (concurs_write there _)).unpin event.device
  · exact h

theorem concurs_reopenDropped (hGrants : switch.host.terms.2 = false) (event : HeadsetEvent) :
    switch.Concurs (switch.reopenDropped event) := by
  obtain ⟨hPhase, hWired, hTracker, hSelector, hRoute⟩ := reopenDropped_eq switch event
  refine concurs_of_granting hGrants hPhase (reroutes_reopenDropped switch event).session hWired
    hSelector (by rw [hTracker]) ?_ (switch.issued_reopenDropped event).terms
  rcases hRoute with hSame | ⟨_, hNone⟩
  · rw [hSame]
  · rw [hNone]

theorem Concurs.reopenDropped (h : here.Concurs there) (event : HeadsetEvent) :
    (here.reopenDropped event).Concurs (there.reopenDropped event) := by
  cases hTerms : here.host.terms.2 with
  | false =>
    have hGrants : there.host.terms.2 = false := by rw [h.terms, hTerms]
    exact h.both (concurs_reopenDropped hTerms event) (concurs_reopenDropped hGrants event)
  | true =>
    obtain ⟨hTracker, hRoute⟩ := h.refusing hTerms
    rw [Switch.reopenDropped, Switch.reopenDropped, hTracker, hRoute]
    split
    · refine Concurs.both ?_ (concurs_write _ _) (concurs_write _ _)
      exact ⟨h.phase, h.session, h.wired, h.selector, rfl, rfl, h.terms, fun _ => ⟨rfl, rfl⟩⟩
    · exact h

theorem Concurs.applyBluetooth (h : here.Concurs there) (event : BluetoothEvent) :
    (there.applyBluetooth event).1 = (here.applyBluetooth event).1 ∧
      (here.applyBluetooth event).2.Concurs (there.applyBluetooth event).2 := by
  have hListening : there.tracker.listening = here.tracker.listening := by rw [h.tracker]
  have hReport : there.tracker.report? event = here.tracker.report? event := by
    rw [h.tracker]
    exact here.tracker.report?_relinked event there.tracker.link
  rw [Switch.applyBluetooth, Switch.applyBluetooth, hListening, hReport]
  split
  · exact ⟨rfl, h⟩
  split
  · exact ⟨rfl, h⟩
  · rename_i report _
    exact ⟨rfl, (((h.hear event).both (concurs_notifyHeadset _ report)
      (concurs_notifyHeadset _ report)).yieldFailed report).reopenDropped report⟩

theorem Concurs.applyCallback (h : here.Concurs there) (callback : Callback) :
    (there.applyCallback callback).1 = (here.applyCallback callback).1 ∧
      (here.applyCallback callback).2.Concurs (there.applyCallback callback).2 := by
  rw [Switch.applyCallback, Switch.applyCallback, h.session, h.phase]
  split
  · exact ⟨rfl, h.both (concurs_write here _) (concurs_write there _)⟩
  split
  · exact h.applyBluetooth _
  · rename_i event _
    rw [applyWired, applyWired, h.wired]
    refine ⟨rfl, h.phase, h.session, rfl, h.selector, h.tracker, h.route, ?_, fun hRefuses => ?_⟩
    · rw [(Issued.writeAll there.host _).terms, (Issued.writeAll here.host _).terms, h.terms]
    · rw [(Issued.writeAll here.host _).terms] at hRefuses
      exact h.strict hRefuses

/-! ## Routing -/

theorem Poised.routeOnce_granted (h : switch.Poised) (hGrants : switch.host.terms.2 = false)
    (now : Nat) : (switch.routeOnce now).1 = .ok () := by
  rcases h.attempt_routeOnce now with
    ⟨hResult, _⟩ | ⟨headset, _, hAttempt⟩
  · exact hResult
  generalize (switch.routeOnce now).1 = result at hAttempt ⊢
  cases hAttempt with
  | spared => rfl
  | granted => rfl
  | refused error hAsks =>
    obtain ⟨middle, ⟨_, hBefore, _⟩, hRefused, _⟩ := hAsks
    rw [Host.isRefused_linkAnswer, hBefore.terms, hGrants] at hRefused
    cases hRefused

theorem Poised.concurs_applyRoute (h : switch.Poised) (hGrants : switch.host.terms.2 = false)
    (now : Nat) : switch.Concurs (switch.applyRoute now) := by
  have hReroutes := reroutes_routeOnce switch now
  have hOk := h.routeOnce_granted hGrants now
  rw [Switch.applyRoute, routeWithin_ok hOk]
  exact concurs_of_granting hGrants rfl rfl rfl rfl
    (hReroutes.steps.relinks (h.failed_routeOnce hOk)) hReroutes.route hReroutes.steps.terms

theorem Concurs.routeOnce (h : here.Concurs there) (hRefuses : here.host.terms.2 = true)
    (now later : Nat) :
    (there.routeOnce later).1 = (here.routeOnce now).1 ∧
      (here.routeOnce now).2.Concurs (there.routeOnce later).2 := by
  obtain ⟨hTracker, hRoute⟩ := h.refusing hRefuses
  have hThere : there.host.terms.2 = true := by rw [h.terms, hRefuses]
  obtain ⟨hResult, hNewRoute, hNewTracker⟩ := Route.routeTo_refused hRefuses hThere here.route
    here.selector.selected here.tracker.listening? now later
  have hNear := (reroutes_routeOnce here now).steps.terms
  have hFar := (reroutes_routeOnce there later).steps.terms
  have hTerms : (there.routeOnce later).2.host.terms = (here.routeOnce now).2.host.terms :=
    (hFar.trans h.terms).trans hNear.symm
  refine ⟨?_, ⟨h.phase, h.session, h.wired, h.selector, ?_, ?_, hTerms, fun _ => ?_⟩⟩
  all_goals simp only [Switch.routeOnce, hTracker, hRoute, h.selector]
  · exact hResult
  · rw [hNewTracker]
  · rw [hNewRoute]
  · rw [hNewTracker, hNewRoute]
    exact ⟨rfl, rfl⟩

theorem Concurs.fallBack (h : here.Concurs there) (device : Device) (rejected : List Device) :
    (here.fallBack device rejected).Concurs (there.fallBack device rejected) :=
  ((h.unpin device).both (concurs_notifyHeadset _ _) (concurs_notifyHeadset _ _)).recompute rejected

theorem Concurs.routeWithin (h : here.Concurs there) (hRefuses : here.host.terms.2 = true)
    (tries : Nat) (rejected : List Device) (now later : Nat) :
    (here.routeWithin tries rejected now).Concurs (there.routeWithin tries rejected later) := by
  induction tries generalizing here there rejected with
  | zero => exact h
  | succ tries ih =>
    obtain ⟨hResult, hOnce⟩ := h.routeOnce hRefuses now later
    cases hNear : (here.routeOnce now).1 with
    | ok =>
      rw [routeWithin_ok hNear, routeWithin_ok (hResult.trans hNear)]
      exact hOnce
    | error error =>
      cases hSelected : here.selector.selected with
      | none => simpa [Switch.routeWithin, h.selector, hSelected] using hOnce
      | some device =>
        have hFar : there.selector.selected = some device := by rw [h.selector, hSelected]
        rw [routeWithin_error hNear hSelected, routeWithin_error (hResult.trans hNear) hFar]
        have hWritten := hOnce.both (concurs_write _ (unroutedLine device error))
          (concurs_write _ (unroutedLine device error))
        simp only
        split
        · exact hWritten
        · refine ih (hWritten.fallBack device (rejected ++ [device])) ?_ _
          have hReroutes := ((reroutes_routeOnce here now).trans (reroutes_write _
            (unroutedLine device error))).trans (reroutes_fallBack _ device (rejected ++ [device]))
          rw [hReroutes.steps.terms, hRefuses]

theorem Concurs.applyRoute (h : here.Concurs there) (hHere : here.Poised) (hThere : there.Poised)
    (now later : Nat) : (here.applyRoute now).Concurs (there.applyRoute later) := by
  cases hTerms : here.host.terms.2 with
  | false =>
    have hGrants : there.host.terms.2 = false := by rw [h.terms, hTerms]
    exact h.both (hHere.concurs_applyRoute hTerms now) (hThere.concurs_applyRoute hGrants later)
  | true =>
    have hTries : there.tracker.headsets.length = here.tracker.headsets.length := by rw [h.tracker]
    rw [Switch.applyRoute, Switch.applyRoute, hTries]
    exact h.routeWithin hTerms _ _ now later

/-- The same callback leaves the two as they were to each other, whenever it is applied. -/
theorem Concurs.handle (h : here.Concurs there) (hHere : Consistent order here)
    (hThere : Consistent order there) (callback : Callback) (now later : Nat) :
    (here.handle callback now).Concurs (there.handle callback later) := by
  obtain ⟨hChanged, hApplied⟩ := h.applyCallback callback
  cases hNear : (here.applyCallback callback).1 with
  | false =>
    rw [handle_unchanged hNear, handle_unchanged (hChanged.trans hNear)]
    exact hApplied
  | true =>
    have hRouted := (hApplied.recompute []).applyRoute (hHere.poised_applyCallback callback)
      (hThere.poised_applyCallback callback) now later
    rw [handle_changed hNear, handle_changed (hChanged.trans hNear)]
    exact hRouted.both (concurs_announce _ _) (concurs_announce _ _)

theorem Agrees.tells (h : here.Agrees there) (hHere : here.Tells near) (hThere : there.Tells far)
    (hAfter : near.Concurs far) : near.Agrees far := by
  have hTidings : there.tidings far = here.tidings near := by
    funext listener
    rw [tidings, tidings, view, view, view, view, h.selector, hAfter.selector]
  refine ⟨hAfter, ?_, ?_⟩
  · rw [hThere.device, hHere.device, h.device]
  · rw [hThere.notices, hHere.notices, h.notices, h.device, hTidings]

theorem Agrees.symm (h : here.Agrees there) : there.Agrees here :=
  ⟨h.toConcurs.symm, h.device.symm, h.notices.symm⟩

theorem Agrees.trans (h : near.Agrees here) (h' : here.Agrees far) : near.Agrees far :=
  ⟨h.toConcurs.trans h'.toConcurs, h'.device.trans h.device, h'.notices.trans h.notices⟩

theorem Agrees.rehost (h : here.Agrees there) {host : Host Handset}
    (hTerms : host.terms = there.host.terms) (hNotices : host.notices = there.host.notices) :
    here.Agrees { there with host } := by
  refine h.trans ⟨concurs_rehost hTerms, rfl, ?_⟩
  rw [deviceNotices, hNotices, deviceNotices]

theorem Agrees.routed (h : here.Agrees there)
    (hHere : Consistent order here) (hThere : Consistent order there) :
    there.route.routed = here.route.routed := by
  have hRouting : there.route.isRouting = here.route.isRouting := by
    rw [h.route]
    rfl
  cases hSilent : here.route.isRouting with
  | false => rw [hHere.quiet hSilent, hThere.quiet (hRouting.trans hSilent)]
  | true => rw [hHere.heard hSilent, hThere.heard (hRouting.trans hSilent), h.selector]

theorem Agrees.handle (h : here.Agrees there) (hHere : Consistent order here)
    (hThere : Consistent order there) (callback : Callback) (now later : Nat) :
    (here.handle callback now).Agrees (there.handle callback later) :=
  h.tells (tells_handle here callback now) (tells_handle there callback later)
    (h.toConcurs.handle hHere hThere callback now later)

/-! ## Replies -/

def Fresh (switch : Switch Handset) : Prop := (switch.recompute []).selector = switch.selector

theorem Concurs.fresh (h : here.Concurs there) (hFresh : here.Fresh) : there.Fresh := by
  rw [Fresh, (h.recompute []).selector, hFresh, h.selector]

theorem Fresh.concurs (h : switch.Fresh) : switch.Concurs (switch.recompute []) :=
  ⟨rfl, rfl, rfl, h, rfl, rfl, terms_recompute switch [], fun _ => ⟨rfl, rfl⟩⟩

theorem fresh_recompute (switch : Switch Handset) : (switch.recompute []).Fresh := by
  have hCandidates : (switch.recompute []).candidates = switch.candidates :=
    candidates_of_terms (terms_recompute switch []) rfl rfl
  change (switch.selector.recompute switch.candidates (switch.excludes [])).recompute
    (switch.recompute []).candidates (switch.excludes []) = _
  rw [hCandidates, Selector.recompute_recompute]
  rfl

theorem Poised.fresh_refresh (h : (switch.recompute []).Poised)
    (hGrants : switch.host.terms.2 = false) (now : Nat) : (switch.refresh now).Fresh := by
  have hTerms : (switch.recompute []).host.terms.2 = false := by rw [terms_recompute, hGrants]
  refine Concurs.fresh ?_ (fresh_recompute switch)
  exact (h.concurs_applyRoute hTerms now).trans (concurs_announce _ _)

theorem Consistent.fresh_handle (h : Consistent order switch) (hGrants : switch.host.terms.2 = false)
    {callback : Callback} (hChanged : (switch.applyCallback callback).1 = true) (now : Nat) :
    (switch.handle callback now).Fresh := by
  have hTerms : (switch.applyCallback callback).2.host.terms.2 = false := by
    rw [(switch.issued_applyCallback callback).terms, hGrants]
  rw [handle_changed hChanged]
  exact (h.poised_applyCallback callback).fresh_refresh hTerms now

theorem Consistent.fresh_still (h : Consistent order switch) (hGrants : switch.host.terms.2 = false)
    (hFresh : switch.Fresh) (callback : Callback) (now : Nat) :
    (switch.handle callback now).Fresh := by
  cases hChanged : (switch.applyCallback callback).1 with
  | false =>
    obtain ⟨lines, hSame⟩ := applyCallback_unchanged hChanged
    rw [handle_unchanged hChanged, hSame]
    exact (concurs_issued (.writeAll switch.host lines)).fresh hFresh
  | true => exact h.fresh_handle hGrants hChanged now

/-- All that a reply brings is the link. -/
theorem concurs_applyReply (hGrants : switch.host.terms.2 = false) {callback : Callback}
    (hReply : callback.IsReply) (hChanged : (switch.applyCallback callback).1 = true) :
    switch.Concurs (switch.applyCallback callback).2 := by
  have hTerms : (switch.applyCallback callback).2.host.terms = switch.host.terms :=
    (switch.issued_applyCallback callback).terms
  obtain ⟨_, address, host, hEq⟩ := applyCallback_reply hReply hChanged
  rw [hEq] at hTerms ⊢
  exact concurs_of_granting hGrants rfl rfl rfl rfl rfl rfl hTerms

theorem Consistent.concurs_reply (h : Consistent order switch)
    (hGrants : switch.host.terms.2 = false) (hFresh : switch.Fresh) {callback : Callback}
    (hReply : callback.IsReply) (now : Nat) : switch.Concurs (switch.handle callback now) := by
  cases hChanged : (switch.applyCallback callback).1 with
  | false =>
    obtain ⟨lines, hSame⟩ := applyCallback_unchanged hChanged
    rw [handle_unchanged hChanged, hSame]
    exact concurs_issued (.writeAll switch.host lines)
  | true =>
    have hHeard := concurs_applyReply hGrants hReply hChanged
    have hStill : ((switch.applyCallback callback).2.recompute []).host.terms.2 = false := by
      rw [terms_recompute, hHeard.terms, hGrants]
    -- Only the link is new, so selecting and routing anew find everything in place.
    have hChosen := hHeard.trans (hHeard.fresh hFresh).concurs
    have hRouted := (h.poised_applyCallback callback).concurs_applyRoute hStill now
    rw [handle_changed hChanged]
    exact (hChosen.trans hRouted).trans (concurs_announce _ _)

theorem Consistent.agrees_reply (h : Consistent order switch)
    (hGrants : switch.host.terms.2 = false) (hFresh : switch.Fresh) {callback : Callback}
    (hReply : callback.IsReply) (now : Nat) : switch.Agrees (switch.handle callback now) := by
  have hSame : switch.Agrees switch := ⟨.refl switch, rfl, rfl⟩
  exact hSame.tells ((Untold.refl switch).tells rfl) (tells_handle switch callback now)
    (h.concurs_reply hGrants hFresh hReply now)

theorem terms_handle (switch : Switch Handset) (callback : Callback) (now : Nat) :
    (switch.handle callback now).host.terms = switch.host.terms :=
  (reroutes_handle switch callback now).steps.terms.trans (switch.issued_applyCallback callback).terms

/-- A callback that calls forth a reply leaves a fresh selection. -/
theorem Consistent.fresh_of_reply (h : Consistent order switch) (callback : Callback) (now : Nat) :
    let last := switch.handle callback now
    last.host.queue = switch.host.queue ∨ last.host.terms.2 = false ∧ last.Fresh ∧
      ∃ reply, last.host.queue = switch.host.queue ++ [reply] ∧ reply.IsReply := by
  intro last
  cases hTerms : switch.host.terms.2 with
  | true =>
    have hRefuses : (switch.applyCallback callback).2.host.terms.2 = true := by
      rw [(switch.issued_applyCallback callback).terms, hTerms]
    have hQueue := (reroutes_handle switch callback now).steps.queue_refused hRefuses
    exact .inl (hQueue.trans (queue_applyCallback switch callback))
  | false =>
    cases hChanged : (switch.applyCallback callback).1 with
    | false =>
      refine .inl ?_
      rw [show last = _ from handle_unchanged hChanged, queue_applyCallback]
    | true =>
      refine (answered_handle switch callback now).imp_right fun ⟨_, hReply⟩ => ⟨?_, ?_, hReply⟩
      · rw [terms_handle, hTerms]
      · exact h.fresh_handle hTerms hChanged now

end Switch

end CallAudio
