import CallAudio.Proofs.Veils

/-! # Logging

Nothing asks whether lines are logged. Two runs that differ only in that, be it from the beginning or
because logging is turned on and off at different times, differ only in their logs; and while logging
is off, neither a switch nor any part of one logs anything.
-/

namespace CallAudio

def Veil.silent {σ : Type} [Platform σ] (log : List LogLine) : Veil σ where
  hide host := { host with logging := false, log }
  adapterAvailable _ := rfl
  bluetoothPermitted _ := rfl
  registerRefusal? _ := rfl
  pluggedHeadset? _ := rfl
  hasEarpiece _ := rfl
  grantsFocus _ := rfl
  audioState _ := rfl
  bluetoothReceiver _ := rfl
  write host line := by cases hLogging : host.logging <;> simp [Host.write, hLogging]
  notify _ _ := rfl
  deliver _ _ := rfl
  issue _ _ := rfl
  hear _ _ := rfl
  watch _ _ := rfl
  attend _ _ := rfl

section Silent

variable {σ : Type} [Platform σ]

theorem Veil.clear_silent (log : List LogLine) : (Veil.silent log : Veil σ).Clear :=
  ⟨fun _ => rfl, fun _ => rfl, fun _ _ => rfl⟩

theorem Veil.showsQueue_silent (log : List LogLine) : (Veil.silent log : Veil σ).ShowsQueue :=
  ⟨fun _ => rfl, fun _ _ => rfl⟩

/-- A host that does not log looks the same behind the veil. -/
theorem Veil.hide_silent {host : Host σ} (hOff : host.logging = false) :
    (Veil.silent host.log).hide host = host := by
  change { host with logging := false } = host
  rw [← hOff]

end Silent

/-- What can be asked of the parts of a switch, each on its own: the ranking, the selector, the
trackers, the route and the listeners. -/
inductive PartOperation
  | createRanking (order : PreferredOrder)
  | rank (excluded : Device → Bool) (devices : List Device)
  | reselect (selector : Selector) (candidates : List Device) (excluded : Device → Bool)
  | startTracker (tracker : Tracker) (session : Nat)
  | startPermitted (tracker : Tracker) (session : Nat)
  | stopTracker (tracker : Tracker)
  | hear (tracker : Tracker) (event : BluetoothEvent)
  | openLink (tracker : Tracker) (device : Device) (now : Nat)
  | closeLink (tracker : Tracker)
  | checkTimeout (tracker : Tracker) (now : Nat)
  | startWired (wired : WiredTracker) (session : Nat)
  | stopWired (wired : WiredTracker)
  | feel (wired : WiredTracker) (event : WiredEvent)
  | activateRoute (route : Route)
  | route (route : Route) (device : Option Device) (tracker : Option Tracker) (now : Nat)
  | deactivateRoute (route : Route) (tracker : Option Tracker)
  | tellDevices (listeners : Listeners) (available : List Device) (selected : Option Device)
  | tellHeadset (listeners : Listeners) (event : HeadsetEvent)

namespace PartOperation

variable {σ : Type} [Platform σ]

def carry (operation : PartOperation) (host : Host σ) : Host σ :=
  match operation with
  | createRanking order => host.write (Selector.creationLine order)
  | rank excluded devices => host.write (Selector.searchLine (bestDevice? excluded devices))
  | reselect selector candidates excluded => host.writeAll (selector.remarks candidates excluded)
  | startTracker tracker session => (tracker.start session host).2.2
  | startPermitted tracker session => (tracker.startPermitted session host).2.2
  | stopTracker tracker => (tracker.stop host).2
  | hear tracker event => host.writeAll (tracker.remarks event)
  | openLink tracker device now => (tracker.activate device now host).2.2
  | closeLink tracker => (tracker.closeLink host).2
  | checkTimeout tracker now => (tracker.checkTimeout now host).2.2
  | startWired wired session => (wired.start session host).2.2
  | stopWired wired => (wired.stop host).2
  | feel wired event => host.writeAll (wired.remarks event)
  | activateRoute current => (current.activate host).2.2
  | route current device tracker now => (current.routeTo device tracker now host).host
  | deactivateRoute current tracker => (current.deactivate tracker host).2.2
  | tellDevices listeners available selected => listeners.devicesChanged available selected host
  | tellHeadset listeners event => listeners.headsetEvent event host

theorem carry_hide {veil : Veil σ} (hClear : veil.Clear) (operation : PartOperation)
    (host : Host σ) : operation.carry (veil.hide host) = veil.hide (operation.carry host) := by
  cases operation with
  | startTracker tracker session =>
    simp only [carry, Tracker.start_hide host tracker (.inl hClear)]
  | startPermitted tracker session =>
    simp only [carry, Tracker.startPermitted_hide host tracker (.inl hClear)]
  | openLink tracker device now =>
    simp only [carry, Tracker.activate]
    cases device.address? with
    | none => rfl
    | some address => simp only [Tracker.openLink_hide host tracker hClear]
  | route current device tracker now =>
    simp only [carry, Route.routeTo_hide host current tracker (.inl hClear)]
  | _ => simp [carry]

end PartOperation

inductive Answer
  | done
  | routed (result : Except RoutingError Unit)
  /-- How many callbacks were applied. -/
  | applied (count : Nat)

def Move.setsLogging {σ : Type} : Move σ → Bool
  | .operation (.setLogging _) _ => true
  | _ => false

namespace Switch

variable {σ : Type}

def unlogged (switch : Switch σ) : Switch σ :=
  { switch with host := { switch.host with logging := false, log := [] } }

variable [Platform σ]

def answer (switch : Switch σ) : Move σ → Answer
  | .operation .activate now => .routed (switch.activate now).1
  | .operation .pump now => .applied (switch.pump now).1
  | _ => .done

/-- What is seen of a run apart from its log: after each move, but for those that turn logging on or
off, its answer and the state that it leaves. -/
def history (switch : Switch σ) : List (Move σ) → List (Answer × Switch σ)
  | [] => []
  | move :: moves =>
    let rest := (switch.move move).history moves
    if move.setsLogging then rest else (switch.answer move, (switch.move move).unlogged) :: rest

theorem unlogged_eq_veiled (switch : Switch σ) : switch.unlogged = switch.veiled (.silent []) := rfl

theorem perform_silent (log : List LogLine) (switch : Switch σ) {operation : Operation}
    (hOther : ∀ on, operation ≠ .setLogging on) (now : Nat) :
    (switch.veiled (.silent log)).perform operation now =
      (switch.perform operation now).veiled (.silent log) :=
  perform_veiled switch (Veil.showsQueue_silent log) (.inl (Veil.clear_silent log))
    (fun _ => .inl (Veil.clear_silent log)) (fun on hSet => absurd hSet (hOther on)) now

theorem move_silent (log : List LogLine) (switch : Switch σ) {move : Move σ}
    (hOther : move.setsLogging = false) :
    (switch.veiled (.silent log)).move move = (switch.move move).veiled (.silent log) := by
  cases move with
  | operation operation now =>
    refine perform_silent log switch ?_ now
    rintro on rfl
    cases hOther
  | focus change =>
    cases hListener : switch.host.focusListener <;>
      simp [move, veiled, Veil.silent, Host.changeFocus, hListener, Host.notify]
  | _ => rfl

theorem answer_unlogged (switch : Switch σ) (move : Move σ) :
    switch.unlogged.answer move = switch.answer move := by
  have hSpares : Spares (.silent []) switch := .inl (Veil.clear_silent [])
  have hShows : (Veil.silent [] : Veil σ).ShowsQueue := Veil.showsQueue_silent []
  cases move with
  | operation operation now =>
    obtain ⟨hPump, hPumped⟩ := pump_veiled switch hShows hSpares now
    rw [unlogged_eq_veiled]
    cases operation with
    | activate =>
      have hBoth := congrArg Prod.snd hPump
      simp only [answer, activate, pumped, hBoth, engage_veiled _ hPumped]
    | pump => simp only [answer, hPump]
    | _ => rfl
  | _ => rfl

theorem unlogged_move (switch : Switch σ) {move : Move σ} (hOther : move.setsLogging = false) :
    (switch.move move).unlogged = switch.unlogged.move move :=
  (move_silent [] switch hOther).symm

theorem unlogged_move_setting (switch : Switch σ) {move : Move σ}
    (hSetting : move.setsLogging = true) : (switch.move move).unlogged = switch.unlogged := by
  unfold Move.setsLogging at hSetting
  split at hSetting
  · rfl
  · cases hSetting

theorem unlogged_run (switch : Switch σ) (moves : List (Move σ)) :
    (switch.run moves).unlogged = switch.unlogged.run (moves.filter (!·.setsLogging)) := by
  induction moves generalizing switch with
  | nil => rfl
  | cons move moves ih =>
    have hRest := ih (switch.move move)
    cases hSetting : move.setsLogging with
    | true =>
      rw [unlogged_move_setting switch hSetting] at hRest
      simpa [run, hSetting] using hRest
    | false =>
      rw [unlogged_move switch hSetting] at hRest
      simpa [run, hSetting] using hRest

theorem history_unlogged (switch : Switch σ) (moves : List (Move σ)) :
    switch.history moves = switch.unlogged.history (moves.filter (!·.setsLogging)) := by
  induction moves generalizing switch with
  | nil => rfl
  | cons move moves ih =>
    rw [history, ih (switch.move move)]
    cases hSetting : move.setsLogging with
    | true =>
      rw [unlogged_move_setting switch hSetting]
      simp [hSetting]
    | false =>
      have hMove := unlogged_move switch hSetting
      have hAgain : (switch.unlogged.move move).unlogged = switch.unlogged.move move :=
        unlogged_move switch.unlogged hSetting
      simp [hSetting, history, answer_unlogged, hMove, hAgain]

theorem log_move {switch : Switch σ} (hOff : switch.host.logging = false) (move : Move σ) :
    (switch.move move).host.log = switch.host.log := by
  cases hSetting : move.setsLogging with
  | true =>
    unfold Move.setsLogging at hSetting
    split at hSetting
    · rfl
    · cases hSetting
  | false =>
    have hSame : switch.veiled (.silent switch.host.log) = switch :=
      congrArg (fun host => { switch with host }) (Veil.hide_silent hOff)
    have hMove := move_silent switch.host.log switch hSetting
    rw [hSame] at hMove
    rw [hMove]
    rfl

theorem log_carry {host : Host σ} (hOff : host.logging = false) (operation : PartOperation) :
    (operation.carry host).log = host.log := by
  have hCarried := operation.carry_hide (Veil.clear_silent host.log) host
  rw [Veil.hide_silent hOff] at hCarried
  rw [hCarried]
  rfl

/-- Two runs with the same moves, but for those that turn logging on or off, show the same after
each move, whether or not they log from the beginning. While logging is off no line is logged,
neither by the switch nor by a part of it. -/
theorem logging_unobservable (config : SwitchConfig) (logging logging' : Bool) (platform : σ)
    (moves moves' : List (Move σ))
    (hSame : moves.filter (!·.setsLogging) = moves'.filter (!·.setsLogging)) :
    let begun := create { config with logging } platform
    let begun' := create { config with logging := logging' } platform
    (begun.unlogged = begun'.unlogged ∧ begun.history moves = begun'.history moves' ∧
      (begun.run moves).unlogged = (begun'.run moves').unlogged) ∧
    (logging = false → begun.host.log = []) ∧
    (∀ (switch : Switch σ) move, switch.host.logging = false →
      (switch.move move).host.log = switch.host.log) ∧
    ∀ (host : Host σ) (operation : PartOperation), host.logging = false →
      (operation.carry host).log = host.log := by
  intro begun begun'
  have hBegun : begun.unlogged = begun'.unlogged := by
    cases logging <;> cases logging' <;> rfl
  refine ⟨⟨hBegun, ?_, ?_⟩, ?_, ?_, ?_⟩
  · rw [history_unlogged begun, history_unlogged begun', hBegun, hSame]
  · rw [unlogged_run, unlogged_run, hBegun, hSame]
  · rintro rfl
    rfl
  · intro switch move hOff
    exact log_move hOff move
  · intro host operation hOff
    exact log_carry hOff operation

/-- One switch begins to log before the call and another stops. -/
theorem logging_unobservable_toggled :
    let config : SwitchConfig := ⟨.usual, usualLinkTimeout, true, true⟩
    let start : Move Handset := .operation (.start (some 1)) 0
    let activate : Move Handset := .operation .activate 0
    let moves : List (Move Handset) := [start, .operation (.setLogging true) 0, activate]
    let moves' : List (Move Handset) := [start, .operation (.setLogging false) 0, activate]
    let begun := create { config with logging := false } Handset.fresh
    let begun' := create { config with logging := true } Handset.fresh
    moves.filter (!·.setsLogging) = moves'.filter (!·.setsLogging) ∧
      begun.history moves = begun'.history moves' ∧ (begun.history moves).length = 2 ∧
      begun.host.logging = false ∧ (begun.move start).host.log = [] ∧
      ((PartOperation.createRanking .usual).carry begun.host).log = [] ∧
      (begun.run moves).host.log.length ≠ (begun'.run moves').host.log.length := by
  intro config start activate moves moves' begun begun'
  have hSame : moves.filter (!·.setsLogging) = moves'.filter (!·.setsLogging) := rfl
  obtain ⟨⟨_, hHistory, _⟩, hBegun, hMove, hPart⟩ :=
    logging_unobservable config false true Handset.fresh moves moves' hSame
  have hOff : begun.host.logging = false := rfl
  have hNone : begun.host.log = [] := hBegun rfl
  exact ⟨hSame, hHistory, rfl, hOff, (hMove begun start hOff).trans hNone,
    (hPart begun.host (.createRanking .usual) hOff).trans hNone, by decide⟩

end Switch

end CallAudio
