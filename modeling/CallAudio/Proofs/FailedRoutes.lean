import CallAudio.Proofs.RouteChanges
import CallAudio.Proofs.TrackerHistory

/-! # What a failed change of route leaves open

A route and a tracker can be used without a switch above them. A change of route fails only for a
headset, and nothing is routed then. A headset that refuses leaves no link, neither its own nor that
of the headset before it. A headset that is not connected leaves the tracker as it was: a link to
another headset stays, though that one is not routed any more.
-/

namespace CallAudio

theorem Tracker.link_denied_idle_iff {tracker : Tracker} {address : String} :
    (tracker.denied address).link = .idle ↔
      address ∈ tracker.addresses ∨ tracker.link = .idle := by
  by_cases hKnown : address ∈ tracker.addresses
  · exact iff_of_true (link_denied_known hKnown) (.inl hKnown)
  · rw [denied_unknown hKnown]
    exact (or_iff_right hKnown).symm

/-- Unless the headset has the link, only a known headset has the link of another one closed. -/
theorem Tracker.disableLink_mem_opening_iff {tracker : Tracker} {address : String}
    (hOther : tracker.link.address? ≠ some address) :
    .disableLink ∈ tracker.opening address ↔
      address ∈ tracker.addresses ∧ tracker.link ≠ .idle := by
  rw [← isSome_find?_iff, opening]
  cases hFound : tracker.find? address with
  | none => simp
  | some headset => by_cases hIdle : tracker.link = .idle <;> simp [hOther, hIdle]

/-- The old link is closed by the request for the new one, not with the device that gives way. -/
theorem Route.disableLink_mem_changing_iff {route : Route} {tracker : Tracker} {headset : Headset}
    (hRouting : route.isRouting = true) (hUnheard : route.routed ≠ some (.bluetoothHeadset headset))
    (hOther : tracker.link.address? ≠ some headset.address) :
    .disableLink ∈ route.changing (some (.bluetoothHeadset headset)) (some tracker) ↔
      headset.address ∈ tracker.addresses ∧ tracker.link ≠ .idle := by
  have hVacating : .disableLink ∉ route.vacating (some (.bluetoothHeadset headset)) (some tracker) := by
    rw [vacating_headset]
    split <;> simp
  rw [changing, if_neg (by simp [hRouting, hUnheard]), List.mem_append, or_iff_right hVacating]
  exact Tracker.disableLink_mem_opening_iff hOther

/-- A route and a tracker without a switch above them, on one host. -/
structure Circuit (σ : Type) where
  route : Route
  tracker : Tracker
  host : Host σ

inductive CircuitOperation (σ : Type)
  | tracker (operation : TrackerOperation σ)
  | activate
  | routeTo (device : Option Device) (now : Nat) (withTracker : Bool)
  | release (device : Device)
  | deactivate (withTracker : Bool)
  | setFocusListener (listener : Option Nat)

namespace Circuit

variable {σ : Type} [Platform σ] {circuit : Circuit σ}

omit [Platform σ] in
def fresh (managesAudio : Bool) (timeout : Nat) (host : Host σ) : Circuit σ :=
  ⟨.idle managesAudio, .idle timeout, host⟩

omit [Platform σ] in
def lent (circuit : Circuit σ) (withTracker : Bool) : Option Tracker :=
  if withTracker then some circuit.tracker else none

omit [Platform σ] in
@[simp] theorem getD_lent (circuit : Circuit σ) (withTracker : Bool) :
    (circuit.lent withTracker).getD circuit.tracker = circuit.tracker := by
  cases withTracker <;> rfl

def perform (circuit : Circuit σ) : CircuitOperation σ → Circuit σ
  | .tracker operation =>
    let (tracker, host) := operation.perform circuit.tracker circuit.host
    { circuit with tracker, host }
  | .activate =>
    let (_, route, host) := circuit.route.activate circuit.host
    { circuit with route, host }
  | .routeTo device now withTracker =>
    let outcome := circuit.route.routeTo device (circuit.lent withTracker) now circuit.host
    ⟨outcome.route, outcome.tracker.getD circuit.tracker, outcome.host⟩
  | .release device => { circuit with route := circuit.route.release device }
  | .deactivate withTracker =>
    let (route, tracker, host) := circuit.route.deactivate (circuit.lent withTracker) circuit.host
    ⟨route, tracker.getD circuit.tracker, host⟩
  | .setFocusListener listener =>
    { circuit with route := { circuit.route with focusListener := listener } }

def performAll (circuit : Circuit σ) (operations : List (CircuitOperation σ)) : Circuit σ :=
  operations.foldl perform circuit

def Recorded (circuit : Circuit σ) : Prop := ∃ events, circuit.tracker.Represents events

theorem Recorded.perform (h : circuit.Recorded) (operation : CircuitOperation σ) :
    (circuit.perform operation).Recorded := by
  obtain ⟨events, hTracker⟩ := h
  cases operation with
  | tracker operation => exact ⟨_, hTracker.perform operation circuit.host⟩
  | activate => exact ⟨events, hTracker⟩
  | routeTo device now withTracker =>
    have hSteps := Route.routeTo_steps circuit.tracker (circuit.lent withTracker) circuit.host
      circuit.route device now
    rw [circuit.getD_lent] at hSteps
    exact ⟨events, hTracker.steps hSteps⟩
  | release device => exact ⟨events, hTracker⟩
  | deactivate withTracker =>
    have hClosed := hTracker.perform .deactivate circuit.host
    rw [TrackerOperation.perform, Tracker.fst_closeLink] at hClosed
    refine ⟨events, ?_⟩
    rw [Circuit.perform]
    simp only [Switch.tracker_deactivate]
    cases withTracker with
    | false => split <;> exact hTracker
    | true =>
      split
      · exact hClosed
      · exact hTracker
  | setFocusListener listener => exact ⟨events, hTracker⟩

theorem recorded_performAll (managesAudio : Bool) (timeout : Nat) (host : Host σ)
    (operations : List (CircuitOperation σ)) :
    ((fresh managesAudio timeout host).performAll operations).Recorded := by
  have hBegin : (fresh managesAudio timeout host).Recorded :=
    ⟨[], (Tracker.sound_idle timeout).hearing, rfl⟩
  exact List.foldlRecOn _ _ hBegin fun _ hBefore operation _ => hBefore.perform operation

/-- A change of route that fails leaves no link open, exactly if the headset that was to be heard is
connected or no link was open before. A link that stays open is the one to another headset, and the
tracker is left as it was. -/
theorem failed_route_unlinked_iff (managesAudio : Bool) (timeout : Nat) (host : Host σ)
    (operations : List (CircuitOperation σ)) (device : Option Device) (now : Nat) :
    let circuit := (fresh managesAudio timeout host).performAll operations
    let outcome := circuit.route.routeTo device (some circuit.tracker) now circuit.host
    ∀ error, outcome.result = .error error →
      ∃ headset tracker said, device = some (.bluetoothHeadset headset) ∧
        error = .linkFailed headset.address ∧
        outcome.route = { circuit.route with routed := none } ∧ outcome.tracker = some tracker ∧
        outcome.host.commands = circuit.host.commands ++ said ∧
        (tracker.link = .idle ↔
          headset.address ∈ circuit.tracker.addresses ∨ circuit.tracker.link = .idle) ∧
        (.disableLink ∈ said ↔
          headset.address ∈ circuit.tracker.addresses ∧ circuit.tracker.link ≠ .idle) ∧
        ∀ address, tracker.link.address? = some address → address ≠ headset.address ∧
          address ∈ tracker.addresses ∧ tracker = circuit.tracker := by
  intro circuit outcome error hError
  obtain ⟨events, hTracker⟩ := recorded_performAll managesAudio timeout host operations
  obtain ⟨⟨hRouting, hUnheard⟩, hRoute, headset, rfl, hReason, hHeld, hDenied⟩ :=
    Route.routeTo_denied hError
  have hOther : circuit.tracker.link.address? ≠ some headset.address := hHeld _ rfl
  have hIssued := Issued.changing circuit.route (some (.bluetoothHeadset headset))
    (some circuit.tracker) now circuit.host
  refine ⟨headset, circuit.tracker.denied headset.address, _, rfl, hReason, hRoute, hDenied,
    hIssued.commands, Tracker.link_denied_idle_iff,
    Route.disableLink_mem_changing_iff hRouting hUnheard hOther, ?_⟩
  intro address hLink
  by_cases hKnown : headset.address ∈ circuit.tracker.addresses
  · rw [Tracker.link_denied_known hKnown] at hLink
    cases hLink
  · rw [Tracker.denied_unknown hKnown] at hLink ⊢
    refine ⟨?_, hTracker.sound.linked address hLink, rfl⟩
    rintro rfl
    exact hOther hLink

/-- A headset refuses that is to be heard after another one. -/
theorem failed_route_unlinked_refused :
    let buds : Headset := ⟨"Buds", "AA"⟩
    let car : Headset := ⟨"Car", "BB"⟩
    let host := Host.ofPlatform Handset.fresh false
    let operations : List (CircuitOperation Handset) := [.activate,
      .tracker (.handle (.connected buds)), .tracker (.handle (.connected car)),
      .routeTo (some (.bluetoothHeadset buds)) 0 true,
      .tracker (.platform fun handset => { handset with refusesLinks := true })]
    let circuit := (fresh false usualLinkTimeout host).performAll operations
    let outcome := circuit.route.routeTo (some (.bluetoothHeadset car)) (some circuit.tracker) 1
      circuit.host
    (outcome.result = .error (.linkFailed "BB") ∧ circuit.tracker.link = .activating "AA" 0) ∧
      ∃ tracker, outcome.tracker = some tracker ∧ tracker.link = .idle := by
  intro buds car host operations circuit outcome
  have hError : outcome.result = .error (.linkFailed "BB") := by decide
  have hKnown : "BB" ∈ circuit.tracker.addresses := by decide
  have hPending : circuit.tracker.link = .activating "AA" 0 := by decide
  obtain ⟨headset, tracker, _, hHeadset, _, _, hTracker, _, hIdle, _⟩ :=
    failed_route_unlinked_iff false usualLinkTimeout host operations (some (.bluetoothHeadset car)) 1 _
      hError
  cases hHeadset
  exact ⟨⟨hError, hPending⟩, tracker, hTracker, hIdle.mpr (.inl hKnown)⟩

/-- A headset is to be heard that is not connected, after another one whose link is pending. -/
theorem failed_route_keeps_link :
    let buds : Headset := ⟨"Buds", "AA"⟩
    let car : Headset := ⟨"Car", "BB"⟩
    let operations : List (CircuitOperation Handset) := [.activate,
      .tracker (.handle (.connected buds)), .routeTo (some (.bluetoothHeadset buds)) 0 true]
    let circuit := (fresh false usualLinkTimeout (.ofPlatform Handset.fresh false)).performAll
      operations
    let outcome := circuit.route.routeTo (some (.bluetoothHeadset car)) (some circuit.tracker) 1
      circuit.host
    (outcome.result = .error (.linkFailed "BB") ∧ outcome.route.routed = none) ∧
      ¬ outcome.tracker.all (·.link = .idle) = true ∧ .disableLink ∉ outcome.host.commands := by
  decide

end Circuit

end CallAudio
