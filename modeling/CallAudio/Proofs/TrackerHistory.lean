import CallAudio.Proofs.Reports
import CallAudio.Proofs.RouteCommands

/-! # A tracker and its history

Whatever is asked of a tracker and whatever its platform answers: what it knows of headsets is what
the connections and disconnections tell that it heard since it last stopped. The link and the
failure marks are about these headsets only, and a link is asked for while there is none. None of
this depends on whether the tracker listens, since it takes every event that it is given.
-/

namespace CallAudio

inductive TrackerOperation (σ : Type)
  | start (session : Nat)
  | stop
  | handle (event : BluetoothEvent)
  | activate (device : Device) (now : Nat)
  | deactivate
  | clearFailure (address : String)
  | checkTimeout (now : Nat)
  | platform (change : σ → σ)

def BluetoothEvent.settles (address : String) : BluetoothEvent → Bool
  | connected headset => headset.address = address
  | disconnected other => other = address
  | _ => false

/-- The headsets that are still connected after `events`, the oldest of which comes first: those of
a connection after which nothing was decided about them. The latest connection comes first. -/
def connections : List BluetoothEvent → List Headset
  | [] => []
  | .connected headset :: later =>
    connections later ++ if later.any (·.settles headset.address) then [] else [headset]
  | _ :: later => connections later

theorem connections_append (earlier later : List BluetoothEvent) :
    connections (earlier ++ later) = connections later ++
      (connections earlier).filter fun headset => !later.any (·.settles headset.address) := by
  induction earlier with
  | nil => simp [connections]
  | cons event earlier ih =>
    cases event with
    | connected headset =>
      rw [List.cons_append, connections, connections, ih, List.filter_append, List.append_assoc,
        List.any_append]
      -- An earlier event or a later one may have decided about this headset since.
      cases hEarly : earlier.any (·.settles headset.address) <;>
        cases hLate : later.any (·.settles headset.address) <;> simp [hLate]
    | _ => exact ih

theorem mem_connections_iff {events : List BluetoothEvent} {headset : Headset} :
    headset ∈ connections events ↔ ∃ earlier later, events = earlier ++ .connected headset :: later ∧
      later.any (·.settles headset.address) = false := by
  constructor
  · intro hMem
    induction events with
    | nil => cases hMem
    | cons event events ih =>
      have hLater : headset ∈ connections events → ∃ earlier later,
          event :: events = earlier ++ .connected headset :: later ∧
            later.any (·.settles headset.address) = false := by
        intro hMem
        obtain ⟨earlier, later, rfl, hLast⟩ := ih hMem
        exact ⟨event :: earlier, later, rfl, hLast⟩
      cases event with
      | connected other =>
        rw [connections, List.mem_append] at hMem
        rcases hMem with hMem | hFirst
        · exact hLater hMem
        · split at hFirst
          · cases hFirst
          · rename_i hLast
            obtain rfl := List.mem_singleton.mp hFirst
            exact ⟨[], events, rfl, Bool.not_eq_true _ ▸ hLast⟩
      | _ => exact hLater hMem
  · rintro ⟨earlier, later, rfl, hLast⟩
    rw [connections_append, connections, hLast]
    simp

/-- A headset that connects again comes first, under its new name. -/
example : connections [.connected ⟨"Buds", "AA"⟩, .connected ⟨"Car", "BB"⟩,
    .audioConnected "AA", .connected ⟨"Pods", "AA"⟩] = [⟨"Pods", "AA"⟩, ⟨"Car", "BB"⟩] := by decide

theorem connections_concat (events : List BluetoothEvent) (event : BluetoothEvent) :
    connections (events ++ [event]) = event.headsetsAfter (connections events) := by
  rw [connections_append]
  cases event <;> simp [connections, BluetoothEvent.settles, BluetoothEvent.headsetsAfter, eq_comm]

namespace Tracker

/-- The tracker as if it listened. What it says of headsets does not depend on that. -/
def hearing (tracker : Tracker) : Tracker := { tracker with listening := true }

theorem Sound.hearing {tracker : Tracker} (h : tracker.Sound) : tracker.hearing.Sound :=
  ⟨h.distinct, h.linked, h.marked, nofun⟩

theorem hearing_apply (tracker : Tracker) (event : BluetoothEvent) :
    (tracker.apply event).hearing = tracker.hearing.apply event := by
  cases event with
  | connected headset => rfl
  | _ address =>
    have hSame : tracker.hearing.find? address = tracker.find? address := rfl
    rw [apply, apply, hSame]
    split <;> rfl

structure Represents (events : List BluetoothEvent) (tracker : Tracker) : Prop where
  sound : tracker.hearing.Sound
  headsets : tracker.headsets = connections events

end Tracker

variable {σ : Type} [Platform σ]

theorem LinkStep.hearing {before after : Tracker × Host σ} (h : LinkStep before after) :
    LinkStep (before.1.hearing, before.2) (after.1.hearing, after.2) := by
  cases h with
  | write tracker host line => exact .write _ host line
  | notify tracker host notice => exact .notify _ host notice
  | speaker tracker host on => exact .speaker _ host on
  | close tracker host hOpen => exact .close tracker.hearing host hOpen
  | «open» tracker host address now hIdle hKnown hOk =>
    exact .open tracker.hearing host address now hIdle hKnown hOk
  | refuse tracker host address reason hIdle hKnown hError =>
    exact .refuse tracker.hearing host address reason hIdle hKnown hError
  | expire tracker host address since hPending =>
    exact .expire tracker.hearing host address since hPending

namespace TrackerOperation

def perform (operation : TrackerOperation σ) (tracker : Tracker) (host : Host σ) :
    Tracker × Host σ :=
  match operation with
  | start session => (tracker.start session host).2
  | stop => tracker.stop host
  | handle event => (tracker.apply event, host.writeAll (tracker.remarks event))
  | activate device now => (tracker.activate device now host).2
  | deactivate => tracker.closeLink host
  | clearFailure address => (tracker.clearFailure address, host)
  | checkTimeout now => (tracker.checkTimeout now host).2
  | platform change => (tracker, { host with platform := change host.platform })

omit [Platform σ] in
/-- The events since the last stop. A tracker that does not listen takes no notice of a stop. -/
def heardAfter (tracker : Tracker) (events : List BluetoothEvent) :
    TrackerOperation σ → List BluetoothEvent
  | handle event => events ++ [event]
  | stop => if tracker.listening then [] else events
  | _ => events

structure RequestsLink (operation : TrackerOperation σ) (tracker : Tracker) (host : Host σ)
    (address : String) : Prop where
  known : address ∈ tracker.addresses
  idle : (tracker.closeLink host).1.link = .idle
  silent : (tracker.closeLink host).2.requests = host.requests
  activated : ∃ device now, operation = .activate device now ∧ device.address? = some address ∧
    operation.perform tracker host =
      ((tracker.closeLink host).1.requestLink address now (tracker.closeLink host).2).2
  requests : (operation.perform tracker host).2.requests = host.requests ++ [address]

end TrackerOperation

namespace Tracker

variable {events : List BluetoothEvent} {tracker : Tracker} {host : Host σ}

def performAll (tracker : Tracker) (operations : List (TrackerOperation σ)) (host : Host σ) :
    Tracker × Host σ :=
  operations.foldl (fun state operation => operation.perform state.1 state.2) (tracker, host)

def heard (tracker : Tracker) (events : List BluetoothEvent) (host : Host σ) :
    List (TrackerOperation σ) → List BluetoothEvent
  | [] => events
  | operation :: later =>
    let next := operation.perform tracker host
    next.1.heard (operation.heardAfter tracker events) next.2 later

theorem Represents.steps {after : Tracker × Host σ} (h : Represents events tracker)
    (hSteps : LinkSteps (tracker, host) after) : Represents events after.1 := by
  let kept (state : Tracker × Host σ) : Prop := state.1.hearing.Sound
  have hStep : ∀ before after, LinkStep before after → kept before → kept after :=
    fun _ _ hStep hBefore => hStep.hearing.sound hBefore
  exact ⟨hSteps.keeps hStep h.sound, hSteps.headsets.2.1.trans h.headsets⟩

theorem activate_steps (tracker : Tracker) (device : Device) (now : Nat) (host : Host σ) :
    LinkSteps (tracker, host) (tracker.activate device now host).2 := by
  rw [activate]
  split
  · exact openLink_steps tracker _ now host
  · exact .refl

theorem Represents.perform (h : Represents events tracker) (operation : TrackerOperation σ)
    (host : Host σ) :
    Represents (operation.heardAfter tracker events) (operation.perform tracker host).1 := by
  cases operation with
  | start session =>
    rw [TrackerOperation.perform]
    rcases Issued.start tracker session host with ⟨hSame, _⟩ | ⟨_, hBegun, _⟩
    · rwa [hSame]
    · rw [hBegun]
      exact ⟨h.sound, h.headsets⟩
  | stop =>
    rw [TrackerOperation.perform, TrackerOperation.heardAfter]
    -- Only a tracker that listens forgets its headsets, and with them the history starts anew.
    cases hListening : tracker.listening with
    | false =>
      rw [stop, hListening]
      exact h
    | true =>
      have hSound : tracker.Sound := by
        have hSame : tracker.hearing = tracker := by rw [hearing, ← hListening]
        exact hSame ▸ h.sound
      rw [Switch.tracker_stop hSound]
      exact ⟨(sound_idle _).hearing, rfl⟩
  | handle event =>
    refine ⟨?_, ?_⟩
    · exact hearing_apply tracker event ▸ h.sound.apply rfl event
    · exact (headsets_apply tracker event).trans (h.headsets ▸ (connections_concat _ event).symm)
  | activate device now => exact h.steps (activate_steps tracker device now host)
  | deactivate => exact h.steps (closeLink_steps tracker host)
  | clearFailure address => exact ⟨h.sound.clearFailure address, h.headsets⟩
  | checkTimeout now => exact h.steps (checkTimeout_steps tracker now host)
  | platform change => exact h

theorem represents_performAll (operations : List (TrackerOperation σ))
    (h : Represents events tracker) (host : Host σ) :
    Represents (tracker.heard events host operations) (tracker.performAll operations host).1 := by
  induction operations generalizing events tracker host with
  | nil => exact h
  | cons operation later ih => exact ih (h.perform operation host) _

theorem requestsLink_activate {device : Device} {address : String}
    (hAddress : device.address? = some address) (hOther : ¬tracker.link.address? = some address)
    (hKnown : ¬(tracker.find? address).isNone) (now : Nat) (host : Host σ) :
    (TrackerOperation.activate device now).RequestsLink tracker host address := by
  have hClosed := (AsksNobody.closeLink tracker host).requests
  have hAsked : (TrackerOperation.activate device now).perform tracker host =
      ((tracker.closeLink host).1.requestLink address now (tracker.closeLink host).2).2 := by
    simp only [TrackerOperation.perform, activate, hAddress]
    rw [openLink, if_neg hOther, if_neg hKnown]
  refine ⟨mem_addresses_of_found hKnown, by rw [fst_closeLink], hClosed,
    ⟨device, now, rfl, hAddress, hAsked⟩, ?_⟩
  rw [hAsked, (Issued.requestLink _ address now _).requests, hClosed]
  rfl

/-- Nothing but the activation of a known headset without a link asks for a link. -/
theorem requests_perform (operation : TrackerOperation σ) (tracker : Tracker) (host : Host σ) :
    (operation.perform tracker host).2.requests = host.requests ∨
      ∃ address, operation.RequestsLink tracker host address := by
  have hQuiet : ∀ {after : Host σ}, Issued [] host after → after.requests = host.requests :=
    fun hIssued => (AsksNobody.of_mute hIssued).requests
  cases operation with
  | start session =>
    rcases Issued.start tracker session host with ⟨_, hIssued⟩ | ⟨_, _, hIssued⟩
    · exact .inl (hQuiet hIssued)
    · exact .inl (hIssued.requests.trans (List.append_nil _))
  | stop =>
    refine .inl ((Issued.stop tracker host).requests.trans ?_)
    split
    · split <;> exact List.append_nil _
    · exact List.append_nil _
  | handle event => exact .inl (hQuiet (.writeAll host _))
  | activate device now =>
    rw [TrackerOperation.perform, activate]
    cases hAddress : device.address? with
    | none => exact .inl rfl
    | some address =>
      simp only [openLink]
      split
      · exact .inl (hQuiet (.write host _))
      split
      · exact .inl (hQuiet (.write host _))
      · rename_i hOther hKnown
        exact .inr ⟨address, requestsLink_activate hAddress hOther hKnown now host⟩
  | deactivate => exact .inl (AsksNobody.closeLink tracker host).requests
  | checkTimeout now => exact .inl (AsksNobody.checkTimeout tracker now host).requests
  | clearFailure address => exact .inl rfl
  | platform change => exact .inl rfl

theorem Represents.timeout (h : Represents events tracker) {address : String} {since now : Nat}
    (hPending : tracker.link = .activating address since) (hLate : since + tracker.timeout ≤ now)
    (host : Host σ) :
    ∃ headset ∈ tracker.headsets, headset.address = address ∧
      (tracker.checkTimeout now host).1 = some ⟨.activationError, .bluetoothHeadset headset⟩ := by
  have hKnown : (tracker.find? address).isSome :=
    isSome_find?_iff.mpr (h.sound.linked address (by rw [hearing, hPending]; rfl))
  obtain ⟨headset, hFound⟩ := Option.isSome_iff_exists.mp hKnown
  obtain ⟨hMem, hAddress⟩ := mem_of_find? hFound
  refine ⟨headset, hMem, hAddress, ?_⟩
  rw [checkTimeout, hPending]
  simp only [if_neg (Nat.not_lt.mpr hLate), hFound]
  rfl

/-- Whatever is asked of a tracker and whatever its platform answers: it knows the headsets whose
latest connection or disconnection since the last stop is a connection, under the name given then,
the latest connection first and each address once. Its link and its failure marks are about these
headsets. A link is asked for by an activation only, for one of these headsets and while there is no
link. So a request that times out is reported with its headset. -/
theorem history_represented (timeout : Nat) (host : Host σ)
    (operations : List (TrackerOperation σ)) :
    let state := (idle timeout).performAll operations host
    let history := (idle timeout).heard [] host operations
    state.1.headsets = connections history ∧ state.1.addresses.Nodup ∧
      (∀ headset, headset ∈ state.1.headsets ↔ ∃ earlier later,
        history = earlier ++ .connected headset :: later ∧
          later.any (·.settles headset.address) = false) ∧
      (∀ address, state.1.link.address? = some address → address ∈ state.1.addresses) ∧
      (∀ address ∈ state.1.failed, address ∈ state.1.addresses) ∧
      (∀ operation : TrackerOperation σ,
        (operation.perform state.1 state.2).2.requests = state.2.requests ∨
          ∃ address, operation.RequestsLink state.1 state.2 address) ∧
      ∀ address since now, state.1.link = .activating address since →
        since + state.1.timeout ≤ now → ∃ headset ∈ state.1.headsets, headset.address = address ∧
          (state.1.checkTimeout now state.2).1 =
            some ⟨.activationError, .bluetoothHeadset headset⟩ := by
  intro state history
  have hBegin : Represents [] (idle timeout) := ⟨(sound_idle timeout).hearing, rfl⟩
  have h : Represents history state.1 := represents_performAll operations hBegin host
  refine ⟨h.headsets, h.sound.distinct, fun headset => ?_, h.sound.linked, h.sound.marked,
    fun operation => requests_perform operation state.1 state.2, ?_⟩
  · rw [h.headsets]
    exact mem_connections_iff
  · exact fun address since now hPending hLate => h.timeout hPending hLate state.2

end Tracker

end CallAudio
