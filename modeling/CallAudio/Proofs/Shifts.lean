import CallAudio.Proofs.LinkCommands

/-! # Shifts of the route

Most of what a switch does tells the platform nothing, or nothing but what routing tells it. Then only
another device is routed, or none; and the loudspeaker was turned on and off so that it is on just
while it is routed, also if routing failed halfway.
-/

namespace CallAudio

/-- Whether the loudspeaker is on once `command` is carried out. -/
def speakerOnce (on : Bool) (command : Command) : Bool :=
  match command with
  | .setSpeakerphone on => on
  | _ => on

def speakerAfter (commands : List Command) (on : Bool) : Bool := commands.foldl speakerOnce on

theorem speakerAfter_append (first last : List Command) (on : Bool) :
    speakerAfter (first ++ last) on = speakerAfter last (speakerAfter first on) :=
  List.foldl_append

theorem speakerAfter_link {commands : List Command}
    (h : ∀ command ∈ commands, command.isLink = true) (on : Bool) :
    speakerAfter commands on = on := by
  induction commands with
  | nil => rfl
  | cons command commands ih =>
    have hLink := h command List.mem_cons_self
    have hRest := ih fun later hMem => h later (List.mem_cons_of_mem command hMem)
    cases command <;> first | exact hRest | cases hLink

theorem Command.isRouting_of_isLink {command : Command} (h : command.isLink = true) :
    command.isRouting = true := by
  cases command <;> first | rfl | cases h

variable {σ : Type} [Platform σ]

namespace Host

variable {before middle after : Host σ} {first middling last : Bool}

def Voices (before after : Host σ) (first last : Bool) : Prop :=
  ∃ issued, Issued issued before after ∧ (∀ command ∈ issued, command.isRouting = true) ∧
    speakerAfter issued first = last

theorem Voices.trans (h : before.Voices middle first middling)
    (h' : middle.Voices after middling last) : before.Voices after first last := by
  obtain ⟨early, hEarly, hRouting, hMiddle⟩ := h
  obtain ⟨late, hLate, hRouting', hLast⟩ := h'
  refine ⟨early ++ late, hEarly.trans hLate, fun command hMem => ?_, ?_⟩
  · exact (List.mem_append.mp hMem).elim (hRouting command) (hRouting' command)
  · rw [speakerAfter_append, hMiddle, hLast]

theorem voices_of_silent (h : Issued [] before after) (on : Bool) : before.Voices after on on :=
  ⟨[], h, by simp, rfl⟩

theorem voices_refl (host : Host σ) (on : Bool) : host.Voices host on on :=
  voices_of_silent (.refl host) on

theorem voices_write (host : Host σ) (line : LogLine) (on : Bool) :
    host.Voices (host.write line) on on := voices_of_silent (.write host line) on

theorem voices_speaker (host : Host σ) (first last : Bool) :
    host.Voices (host.issue (.setSpeakerphone last)) first last :=
  ⟨_, .issue host _, by simp [Command.isRouting], rfl⟩

theorem voices_link {issued : List Command} (hIssued : Issued issued before after)
    (hLink : ∀ command ∈ issued, command.isLink = true) (on : Bool) : before.Voices after on on :=
  ⟨issued, hIssued, fun command hMem => Command.isRouting_of_isLink (hLink command hMem),
    speakerAfter_link hLink on⟩

theorem voices_closeLink (tracker : Tracker) (host : Host σ) (on : Bool) :
    host.Voices (tracker.closeLink host).2 on on := by
  refine voices_link (.closeLink tracker host) (fun command hMem => ?_) on
  split at hMem
  · cases hMem
  · rw [List.mem_singleton.mp hMem]
    rfl

theorem voices_requestLink (tracker : Tracker) (address : String) (now : Nat) (host : Host σ)
    (on : Bool) : host.Voices (tracker.requestLink address now host).2.2 on on := by
  have hWritten := voices_write host
    (.debug "Attempting to enable Bluetooth SCO" [("address", address)]) on
  refine hWritten.trans ?_
  rw [Tracker.requestLink]
  generalize host.write _ = host
  have hAsked := voices_link (.enableLink host address) (by simp [Command.isLink]) on
  generalize host.enableLink address = asked at *
  obtain ⟨result, asked⟩ := asked
  cases result with
  | ok => exact hAsked
  | error reason => exact hAsked.trans (voices_of_silent (.writeAll asked _) on)

theorem voices_openLink (tracker : Tracker) (address : String) (now : Nat) (host : Host σ)
    (on : Bool) : host.Voices (tracker.openLink address now host).2.2 on on := by
  rw [Tracker.openLink]
  split
  · exact voices_write host _ on
  split
  · exact voices_write host _ on
  · exact (voices_closeLink tracker host on).trans (voices_requestLink _ address now _ on)

theorem voices_checkTimeout (tracker : Tracker) (now : Nat) (host : Host σ) (on : Bool) :
    host.Voices (tracker.checkTimeout now host).2.2 on on := by
  rw [Tracker.checkTimeout]
  split
  · split
    · exact voices_refl host on
    · have hClosed := fun host : Host σ =>
        voices_link (.issue host .disableLink) (by simp [Command.isLink]) on
      exact ((voices_write host _ on).trans (hClosed _)).trans (voices_write _ _ on)
  · exact voices_refl host on

end Host

namespace Route

open Host

def usesSpeaker (route : Route) : Bool := decide (route.routed = some .speakerphone)

theorem voices_closeAny (tracker : Option Tracker) (host : Host σ) (on : Bool) :
    host.Voices (closeAny tracker host).2 on on := by
  cases tracker with
  | none => exact voices_refl host on
  | some tracker => exact voices_closeLink tracker host on

/-- Whatever gives way, the loudspeaker is off then. -/
theorem voices_vacate (route : Route) (next : Option Device) (tracker : Option Tracker)
    (host : Host σ) : host.Voices (route.vacate next tracker host).2 route.usesSpeaker false := by
  rw [vacate, usesSpeaker]
  cases route.routed with
  | none => exact voices_refl host false
  | some old =>
    refine (voices_write host (.debug "Disabling audio device" [("device", old.text)]) _).trans ?_
    cases old with
    | bluetoothHeadset headset =>
      simp only [disable]
      split
      · exact voices_refl _ false
      · exact voices_closeAny tracker _ false
    | speakerphone => exact voices_speaker _ true false
    | earpiece => exact voices_refl _ false
    | wiredHeadset => exact voices_refl _ false

theorem voices_enable (device : Device) (tracker : Option Tracker) (now : Nat) (host : Host σ) :
    host.Voices (enable device tracker now host).2.2 false (decide (device = .speakerphone)) := by
  refine (voices_write host (.info "Routing audio" [("device", device.text)]) false).trans ?_
  cases device with
  | bluetoothHeadset headset =>
    cases tracker with
    | none => exact voices_refl _ false
    | some tracker => exact voices_openLink tracker headset.address now _ false
  | speakerphone => exact voices_speaker _ false true
  | earpiece => exact voices_refl _ false
  | wiredHeadset => exact voices_refl _ false

/-- The loudspeaker is on after routing just if it was routed then, also if routing failed halfway. -/
theorem voices_routeTo (route : Route) (device : Option Device) (tracker : Option Tracker)
    (now : Nat) (host : Host σ) :
    host.Voices (route.routeTo device tracker now host).host route.usesSpeaker
      (route.routeTo device tracker now host).route.usesSpeaker := by
  rw [routeTo]
  split
  · exact voices_refl host _
  have hVacated := voices_vacate route device tracker host
  cases device with
  | none => exact hVacated
  | some device =>
    simp only
    have hEnabled := voices_enable device (route.vacate (some device) tracker host).1 now
      (route.vacate (some device) tracker host).2
    cases hResult : (enable device (route.vacate (some device) tracker host).1 now
        (route.vacate (some device) tracker host).2).1 with
    | ok => simpa [usesSpeaker] using hVacated.trans hEnabled
    | error error =>
      -- Only a headset fails, so the loudspeaker was not turned on.
      have hHeadset : device.isBluetooth = true := by
        refine Bool.of_not_eq_false fun hOther => ?_
        rw [(enable_other hOther _ now _).1] at hResult
        cases hResult
      obtain ⟨headset, rfl⟩ := Device.isBluetooth_iff.mp hHeadset
      exact hVacated.trans hEnabled

end Route

structure Books where
  route : Route
  listening : Bool
  registered : Bool

namespace Switch

open Host

variable {before middle after switch : Switch σ} {now : Nat}

omit [Platform σ] in
def books (switch : Switch σ) : Books :=
  ⟨switch.route, switch.tracker.listening, switch.wired.registered⟩

/-- Only another device is routed, or none, and the platform was told so. -/
structure Shifts (before after : Switch σ) : Prop where
  route : ∃ focusListener, after.route =
    { before.route with focusListener, routed := after.route.routed }
  listening : after.tracker.listening = before.tracker.listening
  registered : after.wired.registered = before.wired.registered
  voices : before.host.Voices after.host before.route.usesSpeaker after.route.usesSpeaker
  quiet : before.route.isRouting = false → before.route.routed = none → after.route.routed = none

theorem Shifts.isRouting (h : before.Shifts after) :
    after.route.isRouting = before.route.isRouting := by
  obtain ⟨_, hRoute⟩ := h.route
  rw [hRoute]
  rfl

theorem Shifts.trans (h : before.Shifts middle) (h' : middle.Shifts after) :
    before.Shifts after where
  route := by
    obtain ⟨_, hMiddle⟩ := h.route
    obtain ⟨focusListener, hAfter⟩ := h'.route
    exact ⟨focusListener, by rw [hAfter, hMiddle]⟩
  listening := h'.listening.trans h.listening
  registered := h'.registered.trans h.registered
  voices := h.voices.trans h'.voices
  quiet := fun hSilent hNone =>
    h'.quiet (h.isRouting.trans hSilent) (h.quiet hSilent hNone)

/-- The platform is told nothing, and the books say what they said. -/
theorem shifts_of_silent (hIssued : Issued [] before.host after.host)
    (hBooks : after.books = before.books) : before.Shifts after := by
  have hRoute : after.route = before.route := congrArg Books.route hBooks
  refine ⟨⟨before.route.focusListener, ?_⟩, congrArg Books.listening hBooks,
    congrArg Books.registered hBooks, ?_, fun _ hNone => ?_⟩
  · rw [hRoute]
  · rw [hRoute]
    exact voices_of_silent hIssued _
  · rwa [hRoute]

theorem Shifts.refl (switch : Switch σ) : switch.Shifts switch := shifts_of_silent (.refl _) rfl

theorem shifts_write (switch : Switch σ) (line : LogLine) : switch.Shifts (switch.write line) :=
  shifts_of_silent (.write _ _) rfl

theorem shifts_recompute (switch : Switch σ) (rejected : List Device) :
    switch.Shifts (switch.recompute rejected) := shifts_of_silent (.writeAll _ _) rfl

theorem shifts_notifyHeadset (switch : Switch σ) (event : HeadsetEvent) :
    switch.Shifts (switch.notifyHeadset event) :=
  shifts_of_silent (switch.issued_notifyHeadset event) rfl

theorem shifts_announce (switch : Switch σ) (view : List Device × Option Device) :
    switch.Shifts (switch.announce view) := by
  refine shifts_of_silent (switch.issued_announce view) ?_
  rw [announce]
  split <;> rfl

theorem shifts_fallBack (switch : Switch σ) (device : Device) (rejected : List Device) :
    switch.Shifts (switch.fallBack device rejected) :=
  ((shifts_of_silent (.refl _) rfl : switch.Shifts (switch.unpin device)).trans
    (shifts_notifyHeadset _ _)).trans (shifts_recompute _ rejected)

theorem shifts_routeOnce (switch : Switch σ) (now : Nat) :
    switch.Shifts (switch.routeOnce now).2 := by
  have hReroutes := reroutes_routeOnce switch now
  refine ⟨⟨switch.route.focusListener, hReroutes.route⟩, hReroutes.steps.headsets.1, rfl,
    Route.voices_routeTo _ _ _ now _, ?_⟩
  · intro hSilent hNone
    have hSame : switch.route.routeTo switch.selector.selected switch.tracker.listening? now
        switch.host = ⟨.ok (), switch.route, switch.tracker.listening?, switch.host⟩ :=
      Route.routeTo_idle (.inl hSilent) _ now _
    exact (congrArg (fun outcome => outcome.route.routed) hSame).trans hNone

theorem shifts_routeWithin (tries : Nat) (rejected : List Device) (now : Nat)
    (switch : Switch σ) : switch.Shifts (switch.routeWithin tries rejected now) := by
  induction tries generalizing switch rejected with
  | zero => exact .refl switch
  | succ tries ih =>
    have hOnce := shifts_routeOnce switch now
    cases hResult : (switch.routeOnce now).1 with
    | ok =>
      rw [routeWithin_ok hResult]
      exact hOnce
    | error error =>
      cases hSelected : switch.selector.selected with
      | none => simpa [routeWithin, hSelected] using hOnce
      | some device =>
        rw [routeWithin_error hResult hSelected]
        have hWritten := hOnce.trans (shifts_write _ (unroutedLine device error))
        split
        · exact hWritten
        · exact (hWritten.trans (shifts_fallBack _ _ _)).trans (ih _ _)

theorem shifts_applyRoute (switch : Switch σ) (now : Nat) :
    switch.Shifts (switch.applyRoute now) := shifts_routeWithin _ _ _ _

theorem shifts_refreshSince (switch : Switch σ) (view : List Device × Option Device) (now : Nat) :
    switch.Shifts (switch.refreshSince view now) :=
  ((shifts_recompute switch []).trans (shifts_applyRoute _ now)).trans (shifts_announce _ view)

theorem shifts_yieldFailed (switch : Switch σ) (event : HeadsetEvent) :
    switch.Shifts (switch.yieldFailed event) := by
  refine shifts_of_silent (switch.issued_yieldFailed event) ?_
  rw [yieldFailed]
  split <;> rfl

/-- A link that dropped was a headset's, so the loudspeaker stays off. -/
theorem shifts_reopenDropped (switch : Switch σ) {event : HeadsetEvent}
    (hHeadset : ∃ headset, event.device = .bluetoothHeadset headset) :
    switch.Shifts (switch.reopenDropped event) := by
  have hIssued := switch.issued_reopenDropped event
  revert hIssued
  rw [reopenDropped]
  split
  · rename_i hDropped
    intro hIssued
    obtain ⟨_, _, _, hRouted⟩ := hDropped
    have hRoute : switch.route.release event.device = { switch.route with routed := none } :=
      if_pos hRouted
    obtain ⟨headset, hDevice⟩ := hHeadset
    rw [hRoute] at hIssued ⊢
    refine ⟨⟨switch.route.focusListener, rfl⟩, rfl, rfl, ?_, fun _ _ => rfl⟩
    have hOff : switch.route.usesSpeaker = false := by simp [Route.usesSpeaker, hRouted, hDevice]
    rw [hOff]
    exact voices_of_silent hIssued false
  · exact fun _ => .refl switch

theorem shifts_applyCallback (switch : Switch σ) (callback : Callback) :
    switch.Shifts (switch.applyCallback callback).2 := by
  rw [applyCallback]
  split
  · exact shifts_write switch _
  split
  · rename_i event _
    cases hListening : switch.tracker.listening with
    | false => simpa [applyBluetooth, hListening] using Shifts.refl switch
    | true =>
      cases hReport : switch.tracker.report? event with
      | none => simpa [applyBluetooth, hListening, hReport] using Shifts.refl switch
      | some report =>
        simp only [applyBluetooth, hListening, hReport, Bool.not_true, Bool.false_eq_true, if_false]
        have hTracked : switch.Shifts { switch with
            tracker := switch.tracker.apply event
            host := switch.host.writeAll (switch.tracker.remarks event) } := by
          refine shifts_of_silent (.writeAll _ _) ?_
          simp [books, Tracker.listening_apply]
        exact ((hTracked.trans (shifts_notifyHeadset _ report)).trans
          (shifts_yieldFailed _ report)).trans
            (shifts_reopenDropped _ (Tracker.report?_device hReport))
  · exact shifts_of_silent (.writeAll _ _) rfl

theorem shifts_handle (switch : Switch σ) (callback : Callback) (now : Nat) :
    switch.Shifts (switch.handle callback now) := by
  have hApplied := shifts_applyCallback switch callback
  cases hChanged : (switch.applyCallback callback).1 with
  | false => rwa [handle_unchanged hChanged]
  | true =>
    rw [handle_changed hChanged]
    exact hApplied.trans (shifts_refreshSince _ _ now)

theorem shifts_next (switch : Switch σ) (now : Nat) :
    switch.Shifts ((switch.next? now).getD switch) := by
  rw [next?]
  split
  · exact .refl switch
  · rename_i callback rest _
    have hTaken : switch.Shifts { switch with host := { switch.host with queue := rest } } :=
      shifts_of_silent (.of_same rfl rfl) rfl
    exact hTaken.trans (shifts_handle _ callback now)

theorem shifts_poll (switch : Switch σ) (now : Nat) : switch.Shifts (switch.poll now) := by
  have hSteps := Tracker.checkTimeout_steps switch.tracker now switch.host
  have hVoices := voices_checkTimeout switch.tracker now switch.host switch.route.usesSpeaker
  rw [poll]
  split
  · exact .refl switch
  generalize switch.tracker.checkTimeout now switch.host = checked at *
  obtain ⟨event, tracker, host⟩ := checked
  have hChecked : switch.Shifts { switch with tracker, host } :=
    ⟨⟨switch.route.focusListener, rfl⟩, hSteps.headsets.1, rfl, hVoices, fun _ hNone => hNone⟩
  cases event with
  | none => exact hChecked
  | some event =>
    exact ((hChecked.trans (shifts_notifyHeadset _ event)).trans
      (shifts_yieldFailed _ event)).trans (shifts_refreshSince _ _ now)

theorem shifts_pumped (switch : Switch σ) (now : Nat) : switch.Shifts (switch.pumped now) := by
  have hPump : switch.Shifts (switch.perform .pump now) :=
    perform_induction_act (fun after h => h.trans (shifts_next after now))
      (fun after h => h.trans (shifts_poll after now)) (fun _ h => h) (.refl switch)
  exact hPump

end Switch

end CallAudio
