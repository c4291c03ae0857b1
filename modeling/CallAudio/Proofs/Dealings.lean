import CallAudio.Proofs.Shifts

/-! # How a switch deals with its platform

A beat takes from the platform in five ways: it changes what is routed, prepares for a call, asks for
focus, or registers one of two receivers. A beat that ends a call or a session gives back what was
taken. What each of these dealings keeps, every beat keeps.
-/

namespace CallAudio

variable {σ : Type} [Platform σ]

namespace Switch

variable {before middle after switch : Switch σ} {now : Nat}

/-- One way of dealing with the platform that gives nothing back. -/
inductive Taking (before after : Switch σ) : Prop
  | shift (h : before.Shifts after)
  | prepare (hIssued : Issued before.route.preparing before.host after.host)
    (hBooks : after.books = { before.books with route := (before.route.prepare before.host).1 })
  | focus (hActivated : before.route.activated = true) (hFree : before.route.focusHeld = false)
    (hIssued : Issued [.requestFocus] before.host after.host)
    (hBooks : after.books = { before.books with route := { before.route with
      focusHeld := Platform.grantsFocus before.host.platform } })
  | listen (hDeaf : before.tracker.listening = false)
    (hIssued : Issued [.startListening] before.host after.host)
    (hBooks : after.books = { before.books with listening := true })
  | register (hFree : before.wired.registered = false)
    (hIssued : Issued [.registerWired] before.host after.host)
    (hBooks : after.books = { before.books with registered := true })

abbrev Takings : Switch σ → Switch σ → Prop := Relation.ReflTransGen Taking

theorem Shifts.takings (h : before.Shifts after) : before.Takings after := .single (.shift h)

theorem Takings.keeps {kept : Switch σ → Prop}
    (hTaking : ∀ before after, Taking before after → kept before → kept after)
    (h : before.Takings after) (hBefore : kept before) : kept after := by
  induction h with
  | refl => exact hBefore
  | tail _ hLast ih => exact hTaking _ _ hLast ih

theorem takeFocus_cases (route : Route) (host : Host σ) :
    let taken := route.takeFocus host
    taken.2.1 = route ∧ taken.2.2 = host ∨
      route.focusHeld = false ∧ Issued [.requestFocus] host taken.2.2 ∧
        taken.2.1 = { route with focusHeld := Platform.grantsFocus host.platform } := by
  have hAsked := Issued.requestFocus host route.focusListener
  rw [Route.takeFocus]
  split
  · exact .inl ⟨rfl, rfl⟩
  rename_i hFree
  have hFree : route.focusHeld = false := by simpa using hFree
  revert hAsked
  rw [Host.requestFocus]
  cases Platform.grantsFocus host.platform with
  | true => exact fun hAsked => .inr ⟨hFree, hAsked.written _, rfl⟩
  | false =>
    have hSame : route = { route with focusHeld := false } := by rw [← hFree]
    exact fun hAsked => .inr ⟨hFree, hAsked.written _, hSame⟩

theorem takings_startBluetooth (switch : Switch σ) : switch.Takings switch.startBluetooth := by
  have hBegun := Issued.startPermitted switch.tracker switch.session switch.host
  rw [startBluetooth]
  generalize switch.tracker.startPermitted switch.session switch.host = begun at *
  obtain ⟨result, tracker, host⟩ := begun
  have hDeals : switch.Takings { switch with tracker, host } := by
    rcases hBegun with ⟨hTracker, hIssued⟩ | ⟨hDeaf, hTracker, hIssued⟩
    · obtain rfl : tracker = switch.tracker := hTracker
      have hShifts : switch.Shifts { switch with host } := shifts_of_silent hIssued rfl
      exact hShifts.takings
    · obtain rfl : tracker = { switch.tracker with listening := true } := hTracker
      exact .single (.listen hDeaf hIssued rfl)
  cases result with
  | ok => exact hDeals
  | error error => exact hDeals.trans (shifts_write _ _).takings

theorem takings_startWired (switch : Switch σ) : switch.Takings switch.startWired := by
  have hBegun := Issued.startWired switch.wired switch.session switch.host
  rw [startWired]
  generalize switch.wired.start switch.session switch.host = begun at *
  obtain ⟨result, wired, host⟩ := begun
  have hDeals : switch.Takings { switch with wired, host } := by
    rcases hBegun with ⟨hWired, hIssued⟩ | ⟨hFree, ⟨headset, hWired⟩, hIssued⟩
    · obtain rfl : wired = switch.wired := hWired
      have hShifts : switch.Shifts { switch with host } := shifts_of_silent hIssued rfl
      exact hShifts.takings
    · obtain rfl : wired = ⟨true, headset⟩ := hWired
      exact .single (.register hFree hIssued rfl)
  cases result with
  | ok => exact hDeals
  | error error => exact hDeals.trans (shifts_write _ _).takings

theorem shifts_absorb (switch : Switch σ) : switch.Shifts switch.absorb := by
  have hCallback : ∀ (after : Switch σ) callback, switch.Shifts after →
      switch.Shifts (after.applyCallback callback).2 :=
    fun after callback hBefore => hBefore.trans (shifts_applyCallback after callback)
  exact absorb_induction hCallback (shifts_of_silent (.of_same rfl rfl) rfl)

theorem takings_start (switch : Switch σ) (listener : Option Nat) (now : Nat) :
    switch.Takings (switch.start listener now) := by
  rw [Switch.start]
  split
  · exact (shifts_write switch _).takings
  obtain ⟨_, hTracker, hRoute, _, hWired, line, hHost⟩ := enter_eq switch listener
  have hEntered : switch.Shifts (switch.enter listener) :=
    shifts_of_silent (hHost ▸ .write switch.host line) (by rw [books, hTracker, hRoute, hWired]; rfl)
  have hBegun : switch.Takings (switch.enter listener).startBluetooth.startWired.absorb :=
    ((hEntered.takings.trans (takings_startBluetooth _)).trans (takings_startWired _)).trans
      (shifts_absorb _).takings
  exact hBegun.trans (((shifts_recompute _ []).trans (shifts_applyRoute _ now)).trans
    (shifts_of_silent (issued_notifyDevices _) rfl)).takings

def readied (switch : Switch σ) : Switch σ :=
  { switch with
    phase := .activated
    route := (switch.route.prepare switch.host).1
    host := (switch.route.prepare switch.host).2 }

theorem taking_readied (switch : Switch σ) : switch.Taking switch.readied :=
  .prepare (.prepare switch.route switch.host) rfl

/-- What is left of an activation then: focus, if it is not held yet, and the route. -/
theorem takings_readied (hRunning : switch.phase ≠ .stopped) (now : Nat) :
    switch.readied.Takings (switch.engage now).2 := by
  rw [Switch.engage, if_neg hRunning, Route.activate, readied]
  obtain ⟨hActivated, _, _⟩ := prepare_eq switch.route switch.host
  generalize switch.route.prepare switch.host = ready at *
  obtain ⟨route, host⟩ := ready
  have hTaken := takeFocus_cases route host
  simp only
  generalize route.takeFocus host = taken at *
  obtain ⟨result, taken, asked⟩ := taken
  have hEngaged : Takings { switch with phase := .activated, route, host }
      { switch with phase := .activated, route := taken, host := asked } := by
    rcases hTaken with ⟨hRoute, hHost⟩ | ⟨hFree, hIssued, hRoute⟩
    · obtain rfl : taken = route := hRoute
      obtain rfl : asked = host := hHost
      exact .refl
    · obtain rfl : taken = { route with focusHeld := Platform.grantsFocus host.platform } := hRoute
      exact .single (.focus hActivated hFree hIssued rfl)
  cases result with
  | error error => exact hEngaged.trans (shifts_write _ _).takings
  | ok => exact hEngaged.trans ((shifts_applyRoute _ now).trans (shifts_announce _ _)).takings

theorem takings_engage (switch : Switch σ) (now : Nat) :
    switch.Takings (switch.engage now).2 := by
  by_cases hStopped : switch.phase = .stopped
  · rw [Switch.engage, if_pos hStopped]
  · exact .head (taking_readied switch) (takings_readied hStopped now)

end Switch

def Operation.endsCall : Operation → Bool
  | deactivate => true
  | stop => true
  | _ => false

def Beat.endsCall : Beat → Bool
  | act operation _ => operation.endsCall
  | _ => false

namespace Switch

variable {before after : Switch σ}

/-- A beat that does not end the call gives nothing back. -/
theorem takings_beat (switch : Switch σ) {beat : Beat} (hOther : beat.endsCall = false) :
    switch.Takings (switch.beat beat) := by
  cases beat with
  | callback now => exact (shifts_next switch now).takings
  | poll now => exact (shifts_poll switch now).takings
  | act operation now =>
    cases operation with
    | start listener => exact takings_start switch listener now
    | stop | deactivate => cases hOther
    | activate => exact takings_engage switch now
    | select device =>
      rw [Switch.beat, act, choose]
      split
      · exact (shifts_write switch _).takings
      split
      · exact (shifts_write switch _).takings
      · have hPinned : switch.Shifts (switch.pinTo device) := by
          refine shifts_of_silent (.refl _) ?_
          rcases switch.tracker.forgive_eq device with hSame | ⟨_, hSame⟩ <;>
            simp [books, pinTo, hSame, Tracker.clearFailure]
        exact (hPinned.trans (shifts_refreshSince _ _ now)).takings
    | clearSelection =>
      rw [Switch.beat, act, unchoose]
      split
      · exact .refl
      · have hFreed : switch.Shifts { switch with selector := switch.selector.clearPin } :=
          shifts_of_silent (.refl _) rfl
        exact (hFreed.trans (shifts_refreshSince _ _ now)).takings
    | hostResumed =>
      rw [Switch.beat, act, resume]
      split
      · exact (shifts_write switch _).takings.trans (takings_startBluetooth _)
      · exact .refl
    | pump | poll | next => exact .refl
    | setFocusListener listener =>
      have hSet : switch.Shifts (switch.setFocusListener listener) :=
        ⟨⟨listener, rfl⟩, rfl, rfl, Host.voices_refl _ _, fun _ hNone => hNone⟩
      exact hSet.takings
    | setDeviceListener | setHeadsetListener | setLogging =>
      exact .single (.shift (shifts_of_silent (.of_same rfl rfl) rfl))

inductive Dealing (before after : Switch σ) : Prop
  | take (h : before.Taking after)
  | endCall (hActivated : before.route.activated = true)
    (hIssued : Issued (before.route.silencing before.tracker.listening? ++
      (if before.route.focusHeld then [.abandonFocus] else []) ++ before.route.restoring)
      before.host after.host)
    (hBooks : after.books = { before.books with route := { before.route with
      activated := false, focusHeld := false, saved := none, routed := none } })
  | deafen (hListening : before.tracker.listening = true)
    (hIssued : Issued [.stopListening] before.host after.host)
    (hBooks : after.books = { before.books with listening := false })
  | unregister (hRegistered : before.wired.registered = true)
    (hIssued : Issued [.unregisterWired] before.host after.host)
    (hBooks : after.books = { before.books with registered := false })

abbrev Dealings : Switch σ → Switch σ → Prop := Relation.ReflTransGen Dealing

theorem Takings.dealings (h : before.Takings after) : before.Dealings after :=
  Relation.ReflTransGen.mono (fun _ _ => Dealing.take) _ _ h

theorem Shifts.dealings (h : before.Shifts after) : before.Dealings after :=
  .single (.take (.shift h))

theorem Dealings.keeps {kept : Switch σ → Prop}
    (hDealing : ∀ before after, Dealing before after → kept before → kept after)
    (h : before.Dealings after) (hBefore : kept before) : kept after := by
  induction h with
  | refl => exact hBefore
  | tail _ hLast ih => exact hDealing _ _ hLast ih

theorem tracker_deactivateRoute_listening (switch : Switch σ) :
    switch.deactivateRoute.tracker.listening = switch.tracker.listening := by
  rw [deactivateRoute]
  simp only [tracker_deactivate, Tracker.listening?]
  cases hListening : switch.tracker.listening <;> split <;> simp [hListening]

theorem dealings_deactivateRoute (switch : Switch σ) :
    switch.Dealings switch.deactivateRoute := by
  have hIssued := switch.issued_deactivateRoute
  have hRoute := switch.route_deactivateRoute
  have hBooks : switch.deactivateRoute.books =
      { switch.books with route := switch.deactivateRoute.route } := by
    rw [books, tracker_deactivateRoute_listening]
    rfl
  cases hActivated : switch.route.activated with
  | false =>
    rw [hActivated] at hIssued hRoute
    exact (shifts_of_silent hIssued (by rw [hBooks, hRoute]; rfl)).dealings
  | true =>
    rw [hActivated] at hIssued hRoute
    exact .single (.endCall hActivated hIssued (by rw [hBooks, hRoute]; rfl))

theorem dealings_stopTracker (switch : Switch σ) : switch.Dealings { switch with
    tracker := (switch.tracker.stop switch.host).1
    host := (switch.tracker.stop switch.host).2 } := by
  rw [Tracker.stop]
  split
  · exact .refl
  rename_i hListening
  have hVoices := Host.voices_closeLink switch.tracker switch.host switch.route.usesSpeaker
  have hTracker := switch.tracker.fst_closeLink switch.host
  generalize switch.tracker.closeLink switch.host = closed at *
  obtain ⟨tracker, host⟩ := closed
  obtain rfl : tracker = { switch.tracker with link := .idle } := hTracker
  have hClosed : switch.Shifts { switch with
      tracker := { switch.tracker with link := .idle }, host } :=
    ⟨⟨switch.route.focusListener, rfl⟩, rfl, rfl, hVoices, fun _ hNone => hNone⟩
  have hStopped : Issued [.stopListening] host host.stopListening := ⟨rfl, rfl⟩
  exact hClosed.dealings.tail (.deafen (by simpa using hListening) (hStopped.written _) rfl)

theorem dealings_stopWired (switch : Switch σ) : switch.Dealings { switch with
    wired := (switch.wired.stop switch.host).1
    host := (switch.wired.stop switch.host).2 } := by
  rw [WiredTracker.stop]
  cases hRegistered : switch.wired.registered with
  | true => exact .single (.unregister hRegistered ⟨rfl, rfl⟩ rfl)
  | false =>
    have hSame : switch.Shifts { switch with wired := .idle } :=
      shifts_of_silent (.refl _) (by rw [books, books, hRegistered]; rfl)
    exact hSame.dealings

theorem dealings_leave (switch : Switch σ) : switch.Dealings switch.leave :=
  ((dealings_stopTracker switch).trans (dealings_stopWired _)).tail
    (.take (.shift (shifts_of_silent (.of_same rfl rfl) rfl)))

theorem dealings_stop (switch : Switch σ) : switch.Dealings switch.stop := by
  rw [Switch.stop]
  split
  · exact .refl
  · exact ((shifts_write switch _).dealings.trans (dealings_deactivateRoute _)).trans
      (dealings_leave _)

theorem dealings_beat (switch : Switch σ) (beat : Beat) : switch.Dealings (switch.beat beat) := by
  cases hEnds : beat.endsCall with
  | false => exact (takings_beat switch hEnds).dealings
  | true =>
    cases beat with
    | callback | poll => cases hEnds
    | act operation now =>
      cases operation with
      | stop => exact dealings_stop switch
      | deactivate =>
        rw [Switch.beat, act, disengage]
        split
        · exact .refl
        · exact (dealings_deactivateRoute switch).tail
            (.take (.shift (shifts_of_silent (.refl _) rfl)))
      | _ => cases hEnds

end Switch

end CallAudio
