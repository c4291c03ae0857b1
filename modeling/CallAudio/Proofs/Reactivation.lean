import CallAudio.Proofs.Restart
import CallAudio.Proofs.RouteCommands
import CallAudio.Proofs.Sessions
import CallAudio.Proofs.Supervision

/-! # Calls one after the other

On the simulated handset every call is like the first one. An activation at rest changes the audio
settings, takes focus and makes the selected device heard; the end of it gives back all three, with
the settings that the activation found. In between a reply may confirm the link. It finds the
selection fresh, so it changes nothing but the link, and the end of the call closes that. So the
switch is at rest again, and no call leaves anything behind that the next one could notice.
-/

namespace CallAudio

def Device.lowering : Device → List Command
  | bluetoothHeadset _ => [.disableLink]
  | speakerphone => [.setSpeakerphone false]
  | _ => []

theorem Device.pending_eq_idle_iff {device : Device} {now : Nat} :
    device.pending now = .idle ↔ device.isBluetooth = false := by
  cases device <;> simp [pending, isBluetooth]

namespace Switch

variable {order : PreferredOrder} {begin switch active : Switch Handset} {device : Device}
  {now : Nat}

def kept (switch : Switch Handset) : Option AudioState :=
  if switch.route.managesAudio then some switch.host.platform.audio else none

def calling (switch : Switch Handset) (device : Device) : List Command :=
  switch.route.preparing ++ [.requestFocus] ++ device.raising

def hangingUp (switch : Switch Handset) (device : Device) : List Command :=
  device.lowering ++ [.abandonFocus] ++ { switch.route with saved := switch.kept }.restoring

def call (switch : Switch Handset) (times : Nat × Nat) : Switch Handset :=
  (switch.activate times.1).2.deactivate times.2

def inTime (switch : Switch Handset) (now : Nat) : Bool :=
  (switch.drain now).2.tracker.deadline?.all (now < ·)

def callsInTime (switch : Switch Handset) : List (Nat × Nat) → Bool
  | [] => true
  | times :: later =>
    (switch.activate times.1).2.inTime times.2 && (switch.call times).callsInTime later

/-- What calls leave as it was when they began: the selection, what was told of it, and the handset
but for its focus and its audio settings. -/
structure Resembles (begin switch : Switch Handset) : Prop where
  selector : switch.selector = begin.selector
  told : switch.deviceNotices = begin.deviceNotices
  managesAudio : switch.route.managesAudio = begin.route.managesAudio
  platform : ∃ focusHeld audio, switch.host.platform = { begin.host.platform with focusHeld, audio }

structure AtRest (order : PreferredOrder) (begin switch : Switch Handset) : Prop
    extends Resembles begin switch where
  consistent : Consistent order switch
  started : switch.phase = .started
  queue : switch.host.queue = []
  idle : switch.tracker.link = .idle
  saved : switch.route.saved = none
  kept : switch.kept = begin.kept

structure Ready (order : PreferredOrder) (device : Device) (begin : Switch Handset) : Prop where
  rests : AtRest order begin begin
  selected : begin.selector.selected = some device
  grants : begin.host.platform.grantsFocus = true
  accepts : begin.host.platform.refusesLinks = false
  earpiece : begin.KnowsEarpiece

/-- A call goes on in which `device` is heard. At most a reply to the request for its link waits. -/
structure Calls (order : PreferredOrder) (begin : Switch Handset) (device : Device)
    (active : Switch Handset) : Prop extends Resembles begin active where
  consistent : Consistent order active
  activated : active.phase = .activated
  routed : active.route.routed = some device
  focus : active.route.focusHeld = true
  saved : active.route.saved = begin.kept
  linked : active.tracker.link = .idle ↔ device.isBluetooth = false
  waiting : active.host.queue = [] ∨
    device.isBluetooth = true ∧ ∃ reply : Callback, active.host.queue = [reply] ∧ reply.IsReply

theorem Resembles.refl (switch : Switch Handset) : switch.Resembles switch :=
  ⟨rfl, rfl, rfl, _, _, rfl⟩

theorem Resembles.step {before after : Switch Handset} (h : begin.Resembles before)
    (hTells : before.Tells after) (hSelector : after.selector = before.selector)
    (hManages : after.route.managesAudio = before.route.managesAudio) {issued : List Command}
    (hIssued : Issued issued before.host after.host) : begin.Resembles after := by
  obtain ⟨_, _, hPlatform⟩ := h.platform
  obtain ⟨focusHeld, audio, hCarried⟩ := Handset.carried issued before.host.platform
  refine ⟨hSelector.trans h.selector, ?_, hManages.trans h.managesAudio, focusHeld, audio, ?_⟩
  · rw [hTells.quiet (by rw [view, view, hSelector]), h.told]
  · rw [hIssued.platform, hCarried, hPlatform]

theorem Resembles.knowsEarpiece (h : begin.Resembles switch) (hEarpiece : begin.KnowsEarpiece) :
    switch.KnowsEarpiece := by
  obtain ⟨_, _, hPlatform⟩ := h.platform
  rw [KnowsEarpiece, h.selector, hPlatform]
  exact hEarpiece

/-! ## A call begins -/

/-- An activation that is granted focus. -/
theorem route_activate_granted (hIdle : switch.route.activated = false)
    (hFree : switch.route.focusHeld = false) (hSaved : switch.route.saved = none)
    (hGrants : switch.host.platform.grantsFocus = true) :
    let taken := switch.route.activate switch.host
    taken.1 = .ok () ∧ taken.2.1 =
      { switch.route with activated := true, focusHeld := true, saved := switch.kept } := by
  have hPrepared : (switch.route.prepare switch.host).1 =
      { switch.route with activated := true, saved := switch.kept } := by
    rw [Route.prepare, kept, hIdle]
    cases hManages : switch.route.managesAudio with
    | true => simp [Platform.audioState, hManages]
    | false => simp [hManages, hSaved]
  have hStill : Platform.grantsFocus (switch.route.prepare switch.host).2.platform = true := by
    obtain ⟨_, _, hCarried⟩ := Handset.carried switch.route.preparing switch.host.platform
    rw [(Issued.prepare switch.route switch.host).platform, hCarried]
    exact hGrants
  rw [Route.activate]
  generalize switch.route.prepare switch.host = prepared at *
  obtain ⟨route, host⟩ := prepared
  obtain rfl : route = _ := hPrepared
  simp [Route.takeFocus, hFree, Host.requestFocus, hStill]

theorem AtRest.idle_route (h : AtRest order begin switch) :
    switch.route.activated = false ∧ switch.route.focusHeld = false := by
  have hIdle : switch.route.activated = false := by
    rw [← Bool.not_eq_true, h.consistent.activated, h.started]
    decide
  refine ⟨hIdle, ?_⟩
  rw [← Bool.not_eq_true]
  exact fun hHeld => absurd (hIdle.symm.trans (h.consistent.focused hHeld)) (by decide)

theorem AtRest.preparing (hBegin : AtRest order begin begin) (h : AtRest order begin switch) :
    switch.route.preparing = begin.route.preparing := by
  rw [Route.preparing, Route.preparing, h.idle_route.1, hBegin.idle_route.1, h.managesAudio]

/-- The switch of a call that has begun, before the selected device is heard. -/
theorem AtRest.vacant (h : AtRest order begin switch) {route : Route} {host : Host Handset}
    (hRoute : route = { switch.route with
      activated := true, focusHeld := true, saved := switch.kept }) :
    Vacant { switch with phase := .activated, route, host } := by
  have hRunning : switch.phase ≠ .stopped := by
    rw [h.started]
    decide
  have hSilent : switch.route.isRouting = false :=
    h.consistent.silent_of_phase (by rw [h.started]; decide)
  have hNone : route.routed = none := by
    rw [hRoute]
    exact h.consistent.quiet hSilent
  have hSettled := h.consistent.settled hRunning
  obtain ⟨device, _, hSelected, _⟩ := hSettled.selected
  refine ⟨⟨h.consistent.sound, hSettled.congr rfl rfl rfl rfl, ?_⟩, ?_, h.idle, ?_, ?_⟩
  · exact Tracker.pendingFor_of_idle h.idle
  · rw [Route.isRouting, hRoute]
    rfl
  · simp [hNone]
  · simp [hNone, hSelected]

/-- An activation at rest takes focus and makes the selected device heard. The selection is as
before, so the device listener is not told. -/
theorem Ready.engage_eq (hReady : Ready order device begin) (h : AtRest order begin switch)
    (now : Nat) : ∃ host, (switch.engage now).2 = { switch with
        phase := .activated
        route := { switch.route with
          activated := true, focusHeld := true, saved := begin.kept, routed := some device }
        tracker := { switch.tracker with link := device.pending now }
        host } ∧
      Issued (begin.calling device) switch.host host ∧
      Host.Answered (device.isBluetooth = true) switch.host host := by
  obtain ⟨_, _, hPlatform⟩ := h.platform
  have hRunning : switch.phase ≠ .stopped := by
    rw [h.started]
    decide
  obtain ⟨hIdle, hFree⟩ := h.idle_route
  obtain ⟨hOk, hRoute⟩ := route_activate_granted hIdle hFree h.saved
    (by rw [hPlatform]; exact hReady.grants)
  have hTaken := Issued.activate switch.route switch.host
  have hQueue := queue_activate switch.route switch.host
  rw [Switch.engage, if_neg hRunning]
  generalize switch.route.activate switch.host = granted at *
  obtain ⟨result, route, host⟩ := granted
  obtain rfl : result = .ok () := hOk
  simp only at hRoute hTaken hQueue ⊢
  let taken : Switch Handset := { switch with phase := .activated, route, host }
  have hVacant : Vacant taken := h.vacant hRoute
  have hAnswers : ∀ headset, device = .bluetoothHeadset headset →
      (Platform.linkAnswer host.platform headset.address).isRefused = false := by
    intro headset _
    rw [Host.isRefused_linkAnswer, hTaken.terms, Host.terms, hPlatform]
    exact hReady.accepts
  have hChosen : taken.selector.selected = some device := by rw [← hReady.selected, ← h.selector]
  obtain ⟨hRaised, last, hHeard⟩ := hVacant.applyRoute_granted hChosen hAnswers now
  have hAnswered : Host.Answered (taken.applyRoute now).onHeadset host
      (taken.applyRoute now).host :=
    taken.answered_routeWithin (taken.tracker.headsets.length + 1) [] now
  change ∃ host, (taken.applyRoute now).announce switch.view = _ ∧ _
  have hSilent : (taken.applyRoute now).announce switch.view = taken.applyRoute now :=
    if_pos (by rw [hHeard]; rfl)
  rw [hSilent]
  rw [hHeard] at hRaised hAnswered ⊢
  refine ⟨last, ?_, (hTaken.trans hRaised).cast ?_, hAnswered.since hQueue⟩
  · simp only [taken, hRoute, h.kept]
  · rw [calling, hReady.rests.preparing h, hFree]
    rfl

theorem Ready.engage (hReady : Ready order device begin) (h : AtRest order begin switch)
    (now : Nat) :
    Calls order begin device (switch.engage now).2 ∧
      Issued (begin.calling device) switch.host (switch.engage now).2.host := by
  obtain ⟨host, hEngaged, hIssued, hAnswered⟩ := hReady.engage_eq h now
  have hTells := tells_engage switch now
  have hConsistent := h.consistent.engage now
  rw [hEngaged] at hTells hConsistent ⊢
  rw [Host.Answered, h.queue] at hAnswered
  exact ⟨⟨h.toResembles.step hTells rfl rfl hIssued, hConsistent, rfl, rfl, rfl, rfl,
    Device.pending_eq_idle_iff, hAnswered⟩, hIssued⟩

/-! ## A call goes on -/

/-- The report that a link is open changes the link and nothing else, if the selection is fresh. -/
theorem Consistent.handle_reply (h : Consistent order switch) (hEarpiece : switch.KnowsEarpiece)
    {reply : Callback} (hReply : reply.IsReply) (now : Nat) :
    ∃ link host, switch.handle reply now =
        { switch with tracker := { switch.tracker with link }, host } ∧
      Issued [] switch.host host ∧ (link = .idle → switch.tracker.link = .idle) := by
  have hApplied := switch.issued_applyCallback reply
  cases hChanged : (switch.applyCallback reply).1 with
  | false =>
    obtain ⟨lines, hSame⟩ := applyCallback_unchanged hChanged
    rw [handle_unchanged hChanged, hSame]
    exact ⟨switch.tracker.link, _, rfl, .writeAll _ _, id⟩
  | true =>
    obtain ⟨_, address, host, hHeard⟩ := applyCallback_reply hReply hChanged
    have hSound := (h.toSteady.applyCallback reply).sound
    rw [handle_changed hChanged]
    rw [hHeard] at hApplied hSound ⊢
    let next : Switch Handset :=
      { switch with tracker := { switch.tracker with link := .active address }, host }
    have hSettled : next.Settled := (h.settled (running_of_changed hChanged)).congr rfl rfl rfl rfl
    have hFresh : next.KnowsEarpiece := by
      rw [KnowsEarpiece, hApplied.platform]
      exact hEarpiece
    obtain ⟨lines, hLast⟩ := hSettled.refresh_still hSound hFresh h.heard now
    rw [hLast]
    exact ⟨.active address, _, rfl, hApplied.trans (.writeAll host lines), nofun⟩

theorem Calls.handle_reply (h : Calls order begin device active) (hEarpiece : begin.KnowsEarpiece)
    (hBluetooth : device.isBluetooth = true) (hQueue : active.host.queue = []) {reply : Callback}
    (hReply : reply.IsReply) (now : Nat) :
    let later := active.handle reply now
    Calls order begin device later ∧ later.host.queue = [] ∧ Issued [] active.host later.host := by
  obtain ⟨link, host, hLater, hIssued, hLink⟩ :=
    h.consistent.handle_reply (h.knowsEarpiece hEarpiece) hReply now
  have hTells := tells_handle active reply now
  have hConsistent := h.consistent.handle reply now
  have hHeadset : active.onHeadset = true := by
    rw [onHeadset, h.routed]
    exact hBluetooth
  have hStill := (h.consistent.queue_handle_reply hHeadset hReply now).trans hQueue
  simp only [hLater] at *
  have hOpen : link ≠ .idle := by simpa [h.linked, hBluetooth] using mt hLink
  exact ⟨⟨h.toResembles.step hTells rfl rfl hIssued, hConsistent, h.activated, h.routed, h.focus,
    h.saved, by simp [hOpen, hBluetooth], .inl hStill⟩, hStill, hIssued⟩

/-- Once the reply was applied, nothing waits, and nothing but the link has changed. -/
theorem Calls.drain (h : Calls order begin device active) (hEarpiece : begin.KnowsEarpiece)
    (now : Nat) :
    let drained := (active.drain now).2
    Calls order begin device drained ∧ drained.host.queue = [] ∧
      Issued [] active.host drained.host := by
  rw [Switch.drain]
  rcases h.waiting with hQueue | ⟨hBluetooth, reply, hQueue, hReply⟩
  · rw [drainWithin_nil hQueue]
    exact ⟨h, hQueue, .refl _⟩
  · have hTaken : Calls order begin device (active.requeue []) :=
      ⟨⟨h.selector, h.told, h.managesAudio, h.platform⟩, h.consistent.requeue [], h.activated,
        h.routed, h.focus, h.saved, h.linked, .inl rfl⟩
    obtain ⟨hLater, hEmpty, hIssued⟩ :=
      hTaken.handle_reply hEarpiece hBluetooth rfl hReply now
    rw [hQueue, List.length_singleton, drainWithin_cons hQueue]
    simp only [drainWithin_nil hEmpty]
    exact ⟨hLater, hEmpty, ⟨hIssued.commands, hIssued.platform⟩⟩

theorem pumped_inTime (hTime : switch.inTime now = true) :
    switch.pumped now = (switch.drain now).2 := poll_of_deadline hTime

/-- Whoever has focus and is heard need not be activated again. -/
theorem Calls.engage (h : Calls order begin device active) (now : Nat) :
    (active.engage now).2 = active := by
  have hRunning : active.phase ≠ .stopped := by
    rw [h.activated]
    decide
  have hActivated : active.route.activated = true := h.consistent.activated.mpr h.activated
  have hRouting : active.route.isRouting = true := by
    rw [Route.isRouting, hActivated, h.focus]
    rfl
  have hTaken : active.route.activate active.host = (.ok (), active.route, active.host) := by
    rw [Route.activate, Route.prepare, if_pos hActivated]
    exact if_pos h.focus
  have hSame : ({ active with phase := .activated } : Switch Handset) = active := by
    rw [← h.activated]
  rw [Switch.engage, if_neg hRunning, hTaken]
  simp only [hSame]
  rw [applyRoute_idle (.inr (h.consistent.heard hRouting))]
  exact if_pos rfl

/-! ## A call ends -/

theorem Calls.silencing (h : Calls order begin device active) :
    active.route.silencing active.tracker.listening? = device.lowering := by
  have hLinked := h.linked
  rw [Route.silencing, h.routed]
  cases device with
  | bluetoothHeadset headset =>
    obtain ⟨_, hListening, _⟩ := h.consistent.routed_known h.routed
    have hOpen : active.tracker.link ≠ .idle := by simp [hLinked, Device.isBluetooth]
    simp [Tracker.listening?, hListening, hOpen, Device.lowering]
  | _ => rfl

/-- Putting the settings back is the last thing that changes them. -/
theorem audio_restoring {route : Route} {audio : AudioState} (hSaved : route.saved = some audio)
    (commands : List Command) (handset : Handset) :
    Handset.audio ((commands ++ route.restoring).foldl
      (fun handset command => Platform.carryOut command handset) handset) = audio := by
  rw [List.foldl_append, Route.restoring, hSaved]
  rfl

theorem Calls.disengage (h : Calls order begin device active) (hQueue : active.host.queue = []) :
    AtRest order begin active.disengage ∧
      Issued (begin.hangingUp device) active.host active.disengage.host := by
  have hActivated : active.route.activated = true := h.consistent.activated.mpr h.activated
  have hTells := tells_disengage active
  have hConsistent := h.consistent.disengage
  have hEnded : active.disengage = { active.deactivateRoute with phase := .started } :=
    if_neg (not_not.mpr h.activated)
  have hRoute := route_deactivateRoute active
  have hTracker := tracker_deactivateRoute h.consistent.sound
  have hStill := (queue_deactivateRoute active).trans hQueue
  have hIssued : Issued (begin.hangingUp device) active.host active.disengage.host := by
    rw [hEnded]
    refine active.issued_deactivateRoute.cast ?_
    rw [if_pos hActivated, h.silencing, if_pos h.focus, hangingUp, Route.restoring, h.saved]
    rfl
  rw [if_pos hActivated] at hRoute
  rw [hActivated, Bool.true_and, h.routed, Option.any_some] at hTracker
  have hManages : active.disengage.route.managesAudio = active.route.managesAudio := by
    rw [hEnded, hRoute]
  have hResembles : Resembles begin active.disengage :=
    h.toResembles.step hTells (by rw [hEnded]; rfl) hManages hIssued
  refine ⟨⟨hResembles, hConsistent, by rw [hEnded], by rw [hEnded, hStill], ?_, ?_, ?_⟩, hIssued⟩
  · rw [hEnded, hTracker]
    split
    · rfl
    · rename_i hOther
      simpa [h.linked] using hOther
  · rw [hEnded, hRoute]
  · rw [kept, hManages, h.managesAudio]
    split
    · rename_i hKeeps
      have hKept : begin.kept = some begin.host.platform.audio := if_pos hKeeps
      rw [hIssued.platform, hangingUp, audio_restoring hKept, hKept]
    · rename_i hIgnores
      exact (if_neg hIgnores).symm

/-! ## One call after the other -/

theorem AtRest.pumped (h : AtRest order begin switch) (now : Nat) : switch.pumped now = switch := by
  have hDrained : switch.drain now = (0, switch) := drainWithin_nil h.queue _ now
  have hTime : switch.inTime now = true := by
    rw [inTime, hDrained, Tracker.deadline?, h.idle]
    rfl
  rw [pumped_inTime hTime, hDrained]

theorem Ready.activate (hReady : Ready order device begin) (h : AtRest order begin switch)
    (now : Nat) :
    Calls order begin device (switch.activate now).2 ∧
      Issued (begin.calling device) switch.host (switch.activate now).2.host := by
  rw [Switch.activate, h.pumped now]
  exact hReady.engage h now

theorem Ready.activate_again (hReady : Ready order device begin)
    (h : Calls order begin device active) (hTime : active.inTime now = true) :
    Issued [] active.host (active.activate now).2.host := by
  obtain ⟨hDrained, _, hIssued⟩ := h.drain hReady.earpiece now
  rw [Switch.activate, pumped_inTime hTime, hDrained.engage now]
  exact hIssued

theorem Ready.deactivate (hReady : Ready order device begin)
    (h : Calls order begin device active) (hTime : active.inTime now = true) :
    AtRest order begin (active.deactivate now) ∧
      Issued (begin.hangingUp device) active.host (active.deactivate now).host := by
  obtain ⟨hDrained, hQueue, hIssued⟩ := h.drain hReady.earpiece now
  obtain ⟨hRests, hEnded⟩ := hDrained.disengage hQueue
  rw [Switch.deactivate, pumped_inTime hTime]
  exact ⟨hRests, hIssued.trans hEnded⟩

/-- After any number of calls the switch is at rest again. -/
theorem Ready.calls (hReady : Ready order device begin) (h : AtRest order begin switch)
    (calls : List (Nat × Nat)) (hTimes : switch.callsInTime calls = true) :
    AtRest order begin (calls.foldl call switch) := by
  induction calls generalizing switch with
  | nil => exact h
  | cons times calls ih =>
    obtain ⟨hTime, hLater⟩ := Bool.and_eq_true_iff.mp hTimes
    exact ih (hReady.deactivate (hReady.activate h times.1).1 hTime).1 hLater

/-- Whatever happened before, calls that begin on a switch at rest are all alike. Each of them makes
the selected device heard with the same commands and ends with the same commands, asking for it
twice is the same as asking once, and nothing of it shows in the selection or is told. This holds
while focus is granted, links are not refused, no earpiece comes or goes, and no call lasts until a
deadline. -/
theorem reactivation_repeats (config : SwitchConfig) (handset : Handset) (incidents : List Incident)
    (hStarted : ((create config handset).meetAll incidents).phase = .started)
    (hQueue : ((create config handset).meetAll incidents).host.queue = [])
    (hIdle : ((create config handset).meetAll incidents).tracker.link = .idle)
    (hGrants : ((create config handset).meetAll incidents).host.platform.grantsFocus = true)
    (hAccepts : ((create config handset).meetAll incidents).host.platform.refusesLinks = false)
    (hEarpiece : ((create config handset).meetAll incidents).KnowsEarpiece) :
    let begin := (create config handset).meetAll incidents
    ∃ device, begin.selector.selected = some device ∧
      ∀ calls, begin.callsInTime calls = true → ∀ now,
        let rested := calls.foldl call begin
        let active := (rested.activate now).2
        active.host.commands = rested.host.commands ++ begin.calling device ∧
          active.selector = begin.selector ∧ active.deviceNotices = begin.deviceNotices ∧
          ∀ later, active.inTime later = true →
            let ended := active.deactivate later
            (active.activate later).2.host.commands = active.host.commands ∧
              ended.host.commands = active.host.commands ++ begin.hangingUp device ∧
              ended.selector = begin.selector ∧ ended.deviceNotices = begin.deviceNotices := by
  intro begin
  have hConsistent : Consistent config.order begin := consistent_meetAll config handset incidents
  have hTidy : Tidy config begin := tidy_meetAll config handset incidents
  have hSaved : begin.route.saved = none := by
    refine hTidy.saved ?_
    rw [← Bool.not_eq_true, hConsistent.activated, hStarted]
    decide
  obtain ⟨device, _, hSelected, _⟩ := (hConsistent.settled (by rw [hStarted]; decide)).selected
  have hRests : AtRest config.order begin begin :=
    ⟨.refl begin, hConsistent, hStarted, hQueue, hIdle, hSaved, rfl⟩
  have hReady : Ready config.order device begin := ⟨hRests, hSelected, hGrants, hAccepts, hEarpiece⟩
  refine ⟨device, hSelected, fun calls hTimes now => ?_⟩
  obtain ⟨hActive, hCalled⟩ := hReady.activate (hReady.calls hRests calls hTimes) now
  refine ⟨hCalled.commands, hActive.selector, hActive.told, fun later hTime => ?_⟩
  obtain ⟨hEnded, hHungUp⟩ := hReady.deactivate hActive hTime
  refine ⟨?_, hHungUp.commands, hEnded.selector, hEnded.told⟩
  rw [(hReady.activate_again hActive hTime).commands, List.append_nil]

/-- A third call to a headset that confirms its link, on a handset that was muted. -/
theorem reactivation_repeats_headset :
    let config : SwitchConfig := ⟨.usual, usualLinkTimeout, true, false⟩
    let handset : Handset :=
      { Handset.fresh with connected := [⟨"Buds", "AA"⟩], audio := ⟨.normal, false, true⟩ }
    let begin := (create config handset).meetAll [.move (.operation (.start none) 0)]
    let rested := [(1, 2), (3, 9000)].foldl call begin
    let active := (rested.activate 9001).2
    begin.callsInTime [(1, 2), (3, 9000)] = true ∧ active.inTime 9002 = true ∧
      begin.calling (.bluetoothHeadset ⟨"Buds", "AA"⟩) = [.setMode .inCommunication,
        .setMicrophoneMute false, .setSpeakerphone false, .requestFocus, .enableLink "AA"] ∧
      begin.hangingUp (.bluetoothHeadset ⟨"Buds", "AA"⟩) = [.disableLink, .abandonFocus,
        .setMode .normal, .setSpeakerphone false, .setMicrophoneMute true] ∧
      active.host.commands =
        rested.host.commands ++ begin.calling (.bluetoothHeadset ⟨"Buds", "AA"⟩) ∧
      (active.activate 9002).2.host.commands = active.host.commands ∧
      (active.deactivate 9002).host.commands =
        active.host.commands ++ begin.hangingUp (.bluetoothHeadset ⟨"Buds", "AA"⟩) := by
  intro config handset
  simp only
  have hSelected : ((create config handset).meetAll
      [.move (.operation (.start none) 0)]).selector.selected =
        some (.bluetoothHeadset ⟨"Buds", "AA"⟩) := by decide
  have hTimes : ((create config handset).meetAll
      [.move (.operation (.start none) 0)]).callsInTime [(1, 2), (3, 9000)] = true := by decide
  have hTime : ((([(1, 2), (3, 9000)].foldl call ((create config handset).meetAll
      [.move (.operation (.start none) 0)])).activate 9001).2).inTime 9002 = true := by decide
  obtain ⟨device, hChosen, hCalls⟩ := reactivation_repeats config handset
    [.move (.operation (.start none) 0)] (by decide) (by decide) (by decide) (by decide) (by decide)
    (by decide)
  obtain rfl := Option.some.inj (hChosen.symm.trans hSelected)
  obtain ⟨hCalled, _, _, hLater⟩ := hCalls [(1, 2), (3, 9000)] hTimes 9001
  obtain ⟨hAgain, hEnded, _⟩ := hLater 9002 hTime
  exact ⟨hTimes, hTime, by decide, by decide, hCalled, hAgain, hEnded⟩

end Switch

end CallAudio
