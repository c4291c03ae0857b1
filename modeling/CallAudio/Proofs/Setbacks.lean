import CallAudio.Proofs.Notices

/-! # Failed activations as they are reported

One step can report several failed activations: the one that a callback or a deadline brings, and one
for each headset that routing tries in vain. Beside each of them stands the device that held the pin
when it was reported, which the notice does not say. The headset listener hears of exactly these.
-/

namespace CallAudio

def Notice.failed? : Notice → Option Device
  | headset _ ⟨.activationError, device⟩ => some device
  | _ => none

/-- A failed activation, and the device that held the pin when it was reported, if any did. -/
structure Setback where
  device : Device
  holder : Option Device
  deriving DecidableEq

def Setback.hitsPin (setback : Setback) : Bool := setback.holder = some setback.device

def Operation.leavesPin : Operation → Bool
  | stop | select _ | clearSelection => false
  | _ => true

namespace Switch

variable {σ : Type}

def holder? (switch : Switch σ) : Option Device :=
  if switch.selector.pinned then switch.selector.selected else none

def failures (switch : Switch σ) : List Device := switch.host.notices.filterMap Notice.failed?

def setback? (switch : Switch σ) (event : HeadsetEvent) : Option Setback :=
  if event.change = .activationError then some ⟨event.device, switch.holder?⟩ else none

def heard? (switch : Switch σ) (callback : Callback) : Option HeadsetEvent :=
  if callback.session ≠ switch.session ∨ switch.phase = .stopped then none
  else
    match callback.report with
    | .bluetooth event =>
      if switch.tracker.listening then switch.tracker.report? event else none
    | .wired _ => none

/-- The headset listener, if there was one before, was told of these setbacks and of no others. -/
def Told (before after : Switch σ) (setbacks : List Setback) : Prop :=
  before.listeners.headset.isSome →
    after.failures = before.failures ++ setbacks.map Setback.device

variable [Platform σ]

def routeSetbacks (tries : Nat) (rejected : List Device) (now : Nat) (switch : Switch σ) :
    List Setback :=
  match tries with
  | 0 => []
  | tries + 1 =>
    match switch.routeOnce now, switch.selector.selected with
    | (.error error, next), some device =>
      if device ∈ rejected then []
      else
        let rejected := rejected ++ [device]
        ⟨device, switch.holder?⟩ :: ((next.write (unroutedLine device error)).fallBack device
          rejected).routeSetbacks tries rejected now
    | _, _ => []

def applySetbacks (switch : Switch σ) (now : Nat) : List Setback :=
  switch.routeSetbacks (switch.tracker.headsets.length + 1) [] now

def refreshSetbacks (switch : Switch σ) (now : Nat) : List Setback :=
  (switch.recompute []).applySetbacks now

def handleSetbacks (switch : Switch σ) (callback : Callback) (now : Nat) : List Setback :=
  let applied := switch.applyCallback callback
  ((switch.heard? callback).bind switch.setback?).toList ++
    if applied.1 then applied.2.refreshSetbacks now else []

def pollSetbacks (switch : Switch σ) (now : Nat) : List Setback :=
  if !switch.tracker.listening then []
  else
    match switch.tracker.checkTimeout now switch.host with
    | (some event, tracker, host) =>
      (switch.setback? event).toList ++
        (({ switch with tracker, host }.notifyHeadset event).yieldFailed event).refreshSetbacks now
    | (none, _, _) => []

def engageSetbacks (switch : Switch σ) (now : Nat) : List Setback :=
  if switch.phase = .stopped then []
  else
    match switch.route.activate switch.host with
    | (.ok (), route, host) =>
      { switch with phase := .activated, route, host }.applySetbacks now
    | (.error _, _, _) => []

/-- The setbacks of a beat, in the order they are reported. A session that begins and a choice of the
application are not looked into. -/
def beatSetbacks (switch : Switch σ) : Beat → List Setback
  | .callback now =>
    match switch.host.queue with
    | [] => []
    | callback :: rest => (switch.requeue rest).handleSetbacks callback now
  | .poll now => switch.pollSetbacks now
  | .act .activate now => switch.engageSetbacks now
  | .act _ _ => []

def noteSetbacks (switch : Switch σ) (beat : Beat) (noted : List Setback) : List Setback :=
  noted ++ switch.beatSetbacks beat

def setbacks (switch : Switch σ) (operation : Operation) (now : Nat) : List Setback :=
  ((switch.beats operation now).foldl (noteBeat noteSetbacks) ([], switch)).1

variable {before middle after switch : Switch σ} {now : Nat}

omit [Platform σ] in
theorem heard?_eq_some_iff {callback : Callback} {report : HeadsetEvent} :
    switch.heard? callback = some report ↔ ∃ event,
      callback = ⟨switch.session, .bluetooth event⟩ ∧ switch.phase ≠ .stopped ∧
        switch.tracker.listening = true ∧ switch.tracker.report? event = some report := by
  obtain ⟨session, content⟩ := callback
  constructor
  · intro hHeard
    rw [heard?] at hHeard
    split at hHeard
    · cases hHeard
    rename_i hCurrent
    obtain ⟨hSession, hRunning⟩ := not_or.mp hCurrent
    obtain rfl : session = switch.session := not_not.mp hSession
    cases content with
    | wired event => cases hHeard
    | bluetooth event =>
      simp only at hHeard
      split at hHeard
      · rename_i hListening
        exact ⟨event, rfl, hRunning, hListening, hHeard⟩
      · cases hHeard
  · rintro ⟨event, hCallback, hRunning, hListening, hReport⟩
    cases hCallback
    simpa [heard?, hRunning, hListening] using hReport

omit [Platform σ] in
/-- A callback that means nothing to the headset listener changes at most what is in the jack. -/
theorem applyCallback_unheard {callback : Callback} (h : switch.heard? callback = none) :
    ∃ wired lines, (switch.applyCallback callback).2 =
      { switch with wired, host := switch.host.writeAll lines } := by
  rcases applyCallback_cases switch callback with
    hSame | ⟨event, report, hCallback, hRunning, hListening, hReport, _⟩
  · exact hSame
  · have hHeard : switch.heard? callback = some report :=
      heard?_eq_some_iff.mpr ⟨event, hCallback, hRunning, hListening, hReport⟩
    cases hHeard.symm.trans h

omit [Platform σ] in
theorem applyCallback_heard {callback : Callback} {report : HeadsetEvent}
    (h : switch.heard? callback = some report) : ∃ event,
      callback = ⟨switch.session, .bluetooth event⟩ ∧ switch.tracker.listening = true ∧
        switch.tracker.report? event = some report ∧
        switch.applyCallback callback = switch.applyBluetooth event := by
  obtain ⟨event, rfl, hRunning, hListening, hReport⟩ := heard?_eq_some_iff.mp h
  refine ⟨event, rfl, hListening, hReport, ?_⟩
  simp [applyCallback, hRunning]

omit [Platform σ] in
theorem heard?_of_unchanged {callback : Callback} (h : (switch.applyCallback callback).1 = false) :
    switch.heard? callback = none := by
  refine Option.eq_none_iff_forall_ne_some.mpr fun report hHeard => ?_
  obtain ⟨event, _, hListening, hReport, hEq⟩ := applyCallback_heard hHeard
  rw [hEq, applyBluetooth, hListening, hReport] at h
  cases h

theorem routeSetbacks_ok {tries : Nat} {rejected : List Device}
    (h : (switch.routeOnce now).1 = .ok ()) :
    switch.routeSetbacks (tries + 1) rejected now = [] := by
  rw [routeSetbacks]
  revert h
  cases switch.routeOnce now with
  | mk result next =>
    rintro ⟨⟩
    rfl

theorem routeSetbacks_error {tries : Nat} {rejected : List Device} {error : RoutingError}
    {device : Device} (h : (switch.routeOnce now).1 = .error error)
    (hSelected : switch.selector.selected = some device) :
    switch.routeSetbacks (tries + 1) rejected now =
      if device ∈ rejected then []
      else ⟨device, switch.holder?⟩ :: (((switch.routeOnce now).2.write
        (unroutedLine device error)).fallBack device (rejected ++ [device])).routeSetbacks tries
          (rejected ++ [device]) now := by
  rw [routeSetbacks, hSelected]
  revert h
  cases switch.routeOnce now with
  | mk result next =>
    rintro ⟨⟩
    rfl

theorem handleSetbacks_unchanged {callback : Callback}
    (h : (switch.applyCallback callback).1 = false) : switch.handleSetbacks callback now = [] := by
  simp [handleSetbacks, h, heard?_of_unchanged h]

theorem handleSetbacks_changed {callback : Callback}
    (h : (switch.applyCallback callback).1 = true) :
    switch.handleSetbacks callback now = ((switch.heard? callback).bind switch.setback?).toList ++
      (switch.applyCallback callback).2.refreshSetbacks now := by
  simp only [handleSetbacks, h, if_true]

/-! ## What the headset listener hears -/

structure Reports (before after : Switch σ) (setbacks : List Setback) : Prop where
  listener : after.listeners.headset = before.listeners.headset
  told : before.Told after setbacks

omit [Platform σ] in
theorem told_nothing (hNotices : after.host.notices = before.host.notices) :
    before.Told after [] := by
  intro _
  rw [failures, failures, hNotices, List.map_nil, List.append_nil]

omit [Platform σ] in
theorem reports_nothing (hListener : after.listeners.headset = before.listeners.headset)
    (hNotices : after.host.notices = before.host.notices) : before.Reports after [] :=
  ⟨hListener, told_nothing hNotices⟩

omit [Platform σ] in
theorem Reports.refl (switch : Switch σ) : switch.Reports switch [] := reports_nothing rfl rfl

omit [Platform σ] in
theorem Reports.trans {first last : List Setback} (h : before.Reports middle first)
    (h' : middle.Reports after last) : before.Reports after (first ++ last) where
  listener := h'.listener.trans h.listener
  told hListener := by
    have hStill : middle.listeners.headset.isSome := by rwa [h.listener]
    rw [h'.told hStill, h.told hListener, List.map_append, List.append_assoc]

omit [Platform σ] in
theorem Reports.cast {first last : List Setback} (h : before.Reports after first)
    (hSame : first = last) : before.Reports after last := hSame ▸ h

omit [Platform σ] in
theorem reports_notifyHeadset (switch : Switch σ) (event : HeadsetEvent) :
    switch.Reports (switch.notifyHeadset event) (switch.setback? event).toList := by
  refine ⟨rfl, fun hListener => ?_⟩
  obtain ⟨listener, hListener⟩ := Option.isSome_iff_exists.mp hListener
  obtain ⟨change, device⟩ := event
  simp only [failures, notifyHeadset, Listeners.headsetEvent, hListener, Host.notify,
    Host.notices_write, List.filterMap_append, List.append_cancel_left_eq]
  cases change <;> rfl

omit [Platform σ] in
theorem reports_announce (switch : Switch σ) (view : List Device × Option Device) :
    switch.Reports (switch.announce view) [] := by
  rw [announce]
  split
  · exact .refl switch
  refine ⟨rfl, fun _ => ?_⟩
  rw [failures, notifyDevices, Listeners.devicesChanged]
  split
  · simp [failures, Host.notify, Notice.failed?]
  · simp [failures]

theorem reports_fallBack (switch : Switch σ) (device : Device) (rejected : List Device) :
    switch.Reports (switch.fallBack device rejected) [⟨device, (switch.unpin device).holder?⟩] := by
  have hUnpinned : switch.Reports (switch.unpin device) [] := reports_nothing rfl rfl
  have hTold := reports_notifyHeadset (switch.unpin device) ⟨.activationError, device⟩
  exact (hUnpinned.trans hTold).trans (reports_nothing rfl (Host.notices_writeAll _ _))

/-- Every headset that routing tries in vain is reported, in the order of the attempts. -/
theorem reports_routeWithin (tries : Nat) (rejected : List Device) (now : Nat)
    (switch : Switch σ) : switch.Reports (switch.routeWithin tries rejected now)
      (switch.routeSetbacks tries rejected now) := by
  induction tries generalizing switch rejected with
  | zero => exact .refl switch
  | succ tries ih =>
    have hOnce : switch.Reports (switch.routeOnce now).2 [] :=
      reports_nothing rfl (Route.notices_routeTo _ _ _ _ _)
    cases hResult : (switch.routeOnce now).1 with
    | ok =>
      rw [routeWithin_ok hResult, routeSetbacks_ok hResult]
      exact hOnce
    | error error =>
      cases hSelected : switch.selector.selected with
      | none => simpa [routeWithin, routeSetbacks, hSelected] using hOnce
      | some device =>
        rw [routeWithin_error hResult hSelected, routeSetbacks_error hResult hSelected]
        have hWritten : switch.Reports
            ((switch.routeOnce now).2.write (unroutedLine device error)) [] :=
          hOnce.trans (reports_nothing rfl (Host.notices_write _ _))
        split
        · exact hWritten
        · have hRest := (hWritten.trans (reports_fallBack _ device (rejected ++ [device]))).trans
            (ih (rejected ++ [device]) _)
          -- The notice is given once the pin is dropped, the setback has the holder before that.
          exact ⟨hRest.listener, hRest.told⟩

theorem reports_applyRoute (switch : Switch σ) (now : Nat) :
    switch.Reports (switch.applyRoute now) (switch.applySetbacks now) :=
  reports_routeWithin _ _ _ _

theorem reports_refreshSince (switch : Switch σ) (view : List Device × Option Device) (now : Nat) :
    switch.Reports (switch.refreshSince view now) (switch.refreshSetbacks now) := by
  have hSelected : switch.Reports (switch.recompute []) [] :=
    reports_nothing rfl (Host.notices_writeAll _ _)
  exact ((hSelected.trans (reports_applyRoute _ now)).trans (reports_announce _ view)).cast
    (List.append_nil _)

omit [Platform σ] in
theorem reports_yieldFailed (switch : Switch σ) (event : HeadsetEvent) :
    switch.Reports (switch.yieldFailed event) [] := by
  rw [yieldFailed]
  split
  · exact reports_nothing rfl (Host.notices_write _ _)
  · exact .refl switch

omit [Platform σ] in
theorem reports_applyCallback (switch : Switch σ) (callback : Callback) :
    switch.Reports (switch.applyCallback callback).2
      ((switch.heard? callback).bind switch.setback?).toList := by
  cases hHeard : switch.heard? callback with
  | none =>
    obtain ⟨wired, lines, hEq⟩ := applyCallback_unheard hHeard
    rw [hEq]
    exact reports_nothing rfl (Host.notices_writeAll _ _)
  | some report =>
    obtain ⟨event, _, hListening, hReport, hEq⟩ := applyCallback_heard hHeard
    rw [hEq, applyBluetooth, hListening, hReport]
    generalize hTracked : ({ switch with
      tracker := switch.tracker.apply event
      host := switch.host.writeAll (switch.tracker.remarks event) } : Switch σ) = tracked
    have hHeld : switch.Reports tracked [] ∧ tracked.setback? report = switch.setback? report := by
      subst hTracked
      exact ⟨reports_nothing rfl (Host.notices_writeAll _ _), rfl⟩
    have hTold := (hHeld.1.trans (reports_notifyHeadset tracked report)).trans
      (reports_yieldFailed _ report)
    have hReopened : ((tracked.notifyHeadset report).yieldFailed report).Reports
        (((tracked.notifyHeadset report).yieldFailed report).reopenDropped report) [] := by
      rw [reopenDropped]
      split
      · exact reports_nothing rfl (Host.notices_write _ _)
      · exact .refl _
    exact (hTold.trans hReopened).cast (by simp [hHeld.2])

theorem reports_handle (switch : Switch σ) (callback : Callback) (now : Nat) :
    switch.Reports (switch.handle callback now) (switch.handleSetbacks callback now) := by
  have hApplied := reports_applyCallback switch callback
  cases hChanged : (switch.applyCallback callback).1 with
  | false =>
    rw [handle_unchanged hChanged, handleSetbacks_unchanged hChanged]
    exact hApplied.cast (by rw [heard?_of_unchanged hChanged]; rfl)
  | true =>
    rw [handle_changed hChanged, handleSetbacks_changed hChanged]
    exact hApplied.trans (reports_refreshSince _ _ now)

theorem reports_poll (switch : Switch σ) (now : Nat) :
    switch.Reports (switch.poll now) (switch.pollSetbacks now) := by
  have hNotices := switch.tracker.notices_checkTimeout switch.host now
  rw [poll, pollSetbacks]
  split
  · exact .refl switch
  generalize switch.tracker.checkTimeout now switch.host = checked at *
  obtain ⟨event, tracker, host⟩ := checked
  have hChecked : switch.Reports { switch with tracker, host } [] := reports_nothing rfl hNotices
  cases event with
  | none => exact hChecked
  | some event =>
    exact ((hChecked.trans (reports_notifyHeadset _ event)).trans
      (reports_yieldFailed _ event)).trans (reports_refreshSince _ _ now) |>.cast (by simp; rfl)

theorem reports_engage (switch : Switch σ) (now : Nat) :
    switch.Reports (switch.engage now).2 (switch.engageSetbacks now) := by
  have hNotices := switch.route.notices_activate switch.host
  rw [engage, engageSetbacks]
  split
  · exact .refl switch
  generalize switch.route.activate switch.host = taken at *
  obtain ⟨result, route, host⟩ := taken
  have hEngaged : switch.Reports { switch with phase := .activated, route, host } [] :=
    reports_nothing rfl hNotices
  cases result with
  | error error => exact hEngaged.trans (reports_nothing rfl (Host.notices_write _ _))
  | ok =>
    exact ((hEngaged.trans (reports_applyRoute _ now)).trans (reports_announce _ _)).cast (by simp)

theorem reports_disengage (switch : Switch σ) : switch.Reports switch.disengage [] := by
  have hNotices := switch.route.notices_deactivate switch.tracker.listening? switch.host
  rw [disengage]
  split
  · exact .refl switch
  · exact reports_nothing rfl hNotices

theorem reports_resume (switch : Switch σ) : switch.Reports switch.resume [] := by
  rw [resume]
  split
  · generalize hWritten : switch.write _ = written
    have hNotices := written.tracker.notices_startPermitted written.host written.session
    have hBegins : switch.Reports written [] := by
      rw [← hWritten]
      exact reports_nothing rfl (Host.notices_write _ _)
    suffices hStarted : written.Reports (written.startBluetooth) [] from hBegins.trans hStarted
    rw [startBluetooth]
    generalize written.tracker.startPermitted written.session written.host = begun at *
    obtain ⟨result, tracker, host⟩ := begun
    cases result with
    | ok => exact reports_nothing rfl hNotices
    | error error => exact reports_nothing rfl ((Host.notices_write _ _).trans hNotices)
  · exact .refl switch

theorem reports_next (switch : Switch σ) (now : Nat) :
    switch.Reports (switch.beat (.callback now)) (switch.beatSetbacks (.callback now)) := by
  rw [beat, beatSetbacks, next?]
  cases switch.host.queue with
  | nil => exact .refl switch
  | cons callback rest =>
    have hTaken : switch.Reports (switch.requeue rest) [] := reports_nothing rfl rfl
    exact hTaken.trans (reports_handle _ callback now)

/-- What each beat reports, one after the other. -/
theorem reports_beats {beats : List Beat}
    (hBeat : ∀ beat ∈ beats, ∀ switch : Switch σ,
      switch.Reports (switch.beat beat) (switch.beatSetbacks beat)) (noted : List Setback)
    (switch : Switch σ) :
    let last := beats.foldl (noteBeat noteSetbacks) (noted, switch)
    ∃ more, last.1 = noted ++ more ∧ switch.Reports last.2 more := by
  induction beats generalizing noted switch with
  | nil => exact ⟨[], (List.append_nil _).symm, .refl switch⟩
  | cons first beats ih =>
    obtain ⟨hFirst, hRest⟩ := List.forall_mem_cons.mp hBeat
    obtain ⟨more, hNoted, hReports⟩ := ih hRest (noted ++ switch.beatSetbacks first)
      (switch.beat first)
    exact ⟨_, hNoted.trans (List.append_assoc _ _ _), (hFirst switch).trans hReports⟩

/-- The headset listener of a switch that runs hears of the setbacks of an operation, in order. -/
theorem told_perform {operation : Operation} (hLeaves : operation.leavesPin = true)
    (hRunning : switch.phase ≠ .stopped) (now : Nat) :
    switch.Told (switch.perform operation now) (switch.setbacks operation now) := by
  have hPerformed : (∀ after : Switch σ, after.Reports (after.act operation now)
      (after.beatSetbacks (.act operation now))) →
      switch.Told (switch.perform operation now) (switch.setbacks operation now) := by
    intro hAct
    have hBeat : ∀ beat ∈ switch.beats operation now, ∀ after : Switch σ,
        after.Reports (after.beat beat) (after.beatSetbacks beat) := by
      intro beat hMem after
      rcases mem_beats hMem with rfl | rfl | rfl
      · exact reports_next after now
      · exact reports_poll after now
      · exact hAct after
    obtain ⟨more, hNoted, hReports⟩ := reports_beats hBeat [] switch
    rw [perform_eq_foldl, ← snd_noteBeats _ ([], switch), setbacks, hNoted]
    exact hReports.told
  cases operation with
  | stop | select | clearSelection => cases hLeaves
  | start listener =>
    rw [perform, start, if_pos hRunning]
    exact told_nothing (Host.notices_write _ _)
  | setHeadsetListener listener => exact told_nothing rfl
  | activate => exact hPerformed fun after => reports_engage after now
  | deactivate => exact hPerformed fun after => reports_disengage after
  | hostResumed => exact hPerformed fun after => reports_resume after
  | _ => exact hPerformed fun after => reports_nothing rfl rfl

end Switch

end CallAudio
