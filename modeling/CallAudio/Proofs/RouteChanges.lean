import CallAudio.Proofs.BorrowedLink
import CallAudio.Proofs.RouteCommands

/-! # How much a change of route says

A change of route silences what was heard with one command at most and makes the next device heard
with one at most. It takes one more when the loudspeaker gives way to a headset while another headset
has the link, which then has to be closed. That link is open, since a request that is pending belongs
to the routed device.
-/

namespace CallAudio

namespace Command

def silences : Command → Bool
  | disableLink => true
  | setSpeakerphone on => !on
  | _ => false

def raises : Command → Bool
  | enableLink _ => true
  | setSpeakerphone on => on
  | _ => false

end Command

/-- At most one command that silences a device, then at most one that makes one heard. -/
def Brief (commands : List Command) : Prop :=
  ∃ off on : Option Command, commands = off.toList ++ on.toList ∧
    off.all (·.silences) = true ∧ on.all (·.raises) = true

theorem Brief.length_le {commands : List Command} (h : Brief commands) : commands.length ≤ 2 := by
  obtain ⟨off, on, rfl, _⟩ := h
  cases off <;> cases on <;> simp

theorem brief_nil : Brief [] := ⟨none, none, rfl, rfl, rfl⟩

def Tracker.Obstructs (tracker : Tracker) (address : String) : Prop :=
  tracker.link ≠ .idle ∧ tracker.link.address? ≠ some address ∧ (tracker.find? address).isSome

theorem Tracker.Obstructs.opening_eq {tracker : Tracker} {address : String}
    (h : tracker.Obstructs address) :
    tracker.opening address = [.disableLink, .enableLink address] := by
  obtain ⟨hOpen, hOther, hKnown⟩ := h
  simp [opening, hOpen, hOther, Option.isSome_iff_ne_none.mp hKnown]

/-- Where no link is in the way, the request is all that is said. -/
theorem Tracker.opening_free {tracker : Tracker} {address : String}
    (h : ¬ tracker.Obstructs address) :
    ∃ on : Option Command, tracker.opening address = on.toList ∧ on.all (·.raises) = true := by
  rw [opening]
  split
  · exact ⟨none, rfl, rfl⟩
  · rename_i hAsks
    obtain ⟨hOther, hKnown⟩ := not_or.mp hAsks
    have hIdle : tracker.link = .idle := by
      by_contra hOpen
      exact h ⟨hOpen, hOther, by simpa [Option.isSome_iff_ne_none] using hKnown⟩
    exact ⟨some (.enableLink address), by simp [hIdle], rfl⟩

namespace Route

variable {route : Route} {device : Option Device} {tracker : Option Tracker}

def Obstructed (device : Option Device) (tracker : Option Tracker) : Prop :=
  ∃ headset base, device = some (.bluetoothHeadset headset) ∧ tracker = some base ∧
    base.Obstructs headset.address

def changing (route : Route) (device : Option Device) (tracker : Option Tracker) : List Command :=
  if !route.isRouting || route.routed = device then []
  else route.vacating device tracker ++ device.elim [] (enabling tracker)

theorem changing_idle (h : route.isRouting = false ∨ route.routed = device) :
    route.changing device tracker = [] := by
  refine if_pos ?_
  obtain h | h := h <;> simp [h]

/-- What gives way is silenced with one command at most. -/
theorem vacating_short (route : Route) (device : Option Device) (tracker : Option Tracker) :
    ∃ off : Option Command, route.vacating device tracker = off.toList ∧
      off.all (·.silences) = true := by
  rw [vacating]
  cases route.routed with
  | none => exact ⟨none, rfl, rfl⟩
  | some old =>
    cases old with
    | bluetoothHeadset headset =>
      simp only [Option.elim_some, Device.yielding]
      split
      · exact ⟨none, rfl, rfl⟩
      split
      · exact ⟨some .disableLink, rfl, rfl⟩
      · exact ⟨none, rfl, rfl⟩
    | speakerphone => exact ⟨some (.setSpeakerphone false), rfl, rfl⟩
    | earpiece => exact ⟨none, rfl, rfl⟩
    | wiredHeadset name => exact ⟨none, rfl, rfl⟩

theorem enabling_short (h : ¬ Obstructed device tracker) :
    ∃ on : Option Command, device.elim [] (enabling tracker) = on.toList ∧
      on.all (·.raises) = true := by
  cases device with
  | none => exact ⟨none, rfl, rfl⟩
  | some device =>
    cases device with
    | bluetoothHeadset headset =>
      cases tracker with
      | none => exact ⟨none, rfl, rfl⟩
      | some tracker => exact Tracker.opening_free fun hHeld => h ⟨headset, tracker, rfl, rfl, hHeld⟩
    | speakerphone => exact ⟨some (.setSpeakerphone true), rfl, rfl⟩
    | earpiece => exact ⟨none, rfl, rfl⟩
    | wiredHeadset name => exact ⟨none, rfl, rfl⟩

/-- Between two headsets this is left to the tracker, and the jack and the earpiece are never
silenced. -/
theorem vacating_headset (route : Route) (headset : Headset) (tracker : Option Tracker) :
    route.vacating (some (.bluetoothHeadset headset)) tracker =
      if route.routed = some .speakerphone then [.setSpeakerphone false] else [] := by
  rw [vacating]
  cases route.routed with
  | none => rfl
  | some old => cases old <;> rfl

theorem brief_changing_iff : Brief (route.changing device tracker) ↔
    ¬ (route.isRouting = true ∧ route.routed = some .speakerphone ∧ Obstructed device tracker) := by
  by_cases hIdle : route.isRouting = false ∨ route.routed = device
  · rw [changing_idle hIdle]
    refine iff_of_true brief_nil ?_
    rintro ⟨hRouting, hSpeaker, headset, _, rfl, _⟩
    rcases hIdle with hNot | hSame
    · cases hRouting.symm.trans hNot
    · cases hSpeaker.symm.trans hSame
  have hRouting : route.isRouting = true := by simpa using (not_or.mp hIdle).1
  rw [changing, if_neg (by simpa [not_or, hRouting] using (not_or.mp hIdle).2)]
  by_cases hObstructed : Obstructed device tracker
  · obtain ⟨headset, base, rfl, rfl, hHeld⟩ := hObstructed
    have hOpening : (some (Device.bluetoothHeadset headset)).elim [] (enabling (some base)) =
        [.disableLink, .enableLink headset.address] := hHeld.opening_eq
    rw [hOpening, vacating_headset]
    by_cases hSpeaker : route.routed = some .speakerphone
    · rw [if_pos hSpeaker]
      refine iff_of_false (fun hBrief => absurd hBrief.length_le (by simp)) ?_
      exact not_not.mpr ⟨hRouting, hSpeaker, headset, base, rfl, rfl, hHeld⟩
    · rw [if_neg hSpeaker]
      refine iff_of_true ⟨some .disableLink, some (.enableLink headset.address), rfl, rfl, rfl⟩ ?_
      exact fun hAll => hSpeaker hAll.2.1
  · obtain ⟨off, hOff, hSilences⟩ := vacating_short route device tracker
    obtain ⟨on, hOn, hRaises⟩ := enabling_short hObstructed
    exact iff_of_true ⟨off, on, by rw [hOff, hOn], hSilences, hRaises⟩ fun hAll => hObstructed hAll.2.2

variable {σ : Type} [Platform σ]

/-- What gives way to a headset leaves the tracker alone, and no other device needs the tracker. -/
theorem enabling_vacate (route : Route) (device : Option Device) (tracker : Option Tracker)
    (host : Host σ) :
    device.elim [] (enabling (route.vacate device tracker host).1) =
      device.elim [] (enabling tracker) := by
  cases device with
  | none => rfl
  | some device =>
    cases device with
    | bluetoothHeadset headset => simp [fst_vacate, Device.isBluetooth]
    | _ => rfl

end Route

variable {σ : Type} [Platform σ]

theorem Issued.changing (route : Route) (device : Option Device) (tracker : Option Tracker)
    (now : Nat) (host : Host σ) :
    Issued (route.changing device tracker) host (route.routeTo device tracker now host).host := by
  by_cases hIdle : route.isRouting = false ∨ route.routed = device
  · rw [Route.routeTo_idle hIdle, Route.changing_idle hIdle]
    exact .refl host
  · obtain ⟨hRouting, hOther⟩ := not_or.mp hIdle
    have hRouting : route.isRouting = true := by simpa using hRouting
    refine (Issued.routeTo hRouting hOther tracker now host).cast ?_
    rw [Route.enabling_vacate, Route.changing, if_neg (by simp [hRouting, hOther])]

namespace Switch

variable {order : PreferredOrder} {switch begun attempt : Switch σ} {rejected : List Device}
  {now : Nat}

/-- Routing that begins at the first switch, with these devices rejected before, makes an attempt at
the second: at once, or after an attempt that failed. -/
inductive Tries (now : Nat) : List Device → Switch σ → Switch σ → Prop
  | first {rejected : List Device} {switch : Switch σ} : Tries now rejected switch switch
  | again {rejected : List Device} {switch attempt : Switch σ} {error : RoutingError}
    {device : Device} : (switch.routeOnce now).1 = .error error →
    switch.selector.selected = some device → device ∉ rejected →
    Tries now (rejected ++ [device]) (((switch.routeOnce now).2.write
      (unroutedLine device error)).fallBack device (rejected ++ [device])) attempt →
    Tries now rejected switch attempt

inductive ChangesRoute (switch : Switch σ) : Switch σ → Prop
  | here : ChangesRoute switch switch
  | attempt {begun attempt : Switch σ} (now : Nat) : switch.RoutesFrom begun →
    Tries now [] begun attempt → ChangesRoute switch attempt

theorem Tries.poised (h : Tries now rejected begun attempt) (hPoised : begun.Poised)
    (hRejected : ∀ device ∈ rejected, begun.fails device = true) : attempt.Poised := by
  induction h with
  | first => exact hPoised
  | again hError hSelected _ _ ih =>
    obtain ⟨device, hDevice, _, hNext, _, _, hFails⟩ := hPoised.routeOnce_error hError hRejected
    cases hSelected.symm.trans hDevice
    exact ih hNext hFails

theorem ChangesRoute.steady (h : switch.ChangesRoute attempt) (hConsistent : Consistent order switch) :
    attempt.tracker.Sound ∧ attempt.tracker.PendingFor attempt.route.routed := by
  cases h with
  | here => exact ⟨hConsistent.sound, hConsistent.pending⟩
  | attempt now hBegun hTries =>
    have hPoised := hTries.poised (hBegun.poised hConsistent) (by simp)
    exact ⟨hPoised.sound, hPoised.pending⟩

/-- The loudspeaker is heard and another headset has an open link when `device`, a headset, is to be
heard. -/
def SilencesTwice (switch : Switch σ) (device : Option Device) : Prop :=
  switch.route.isRouting = true ∧ switch.route.routed = some .speakerphone ∧
    ∃ headset address, device = some (.bluetoothHeadset headset) ∧
      headset.address ∈ switch.tracker.addresses ∧ switch.tracker.link = .active address ∧
        address ≠ headset.address

omit [Platform σ] in
/-- A link that is in the way of a headset while the loudspeaker is heard is open, since a request
that is pending belongs to the routed device. -/
theorem silencesTwice_iff (hSound : attempt.tracker.Sound)
    (hPending : attempt.tracker.PendingFor attempt.route.routed) {device : Option Device} :
    attempt.SilencesTwice device ↔ attempt.route.isRouting = true ∧
      attempt.route.routed = some .speakerphone ∧
        Route.Obstructed device attempt.tracker.listening? := by
  refine and_congr_right fun _ => and_congr_right fun hSpeaker => ?_
  constructor
  · rintro ⟨headset, address, rfl, hKnown, hActive, hOther⟩
    have hListening : attempt.tracker.listening = true := by
      by_contra hDeaf
      have hNone := hSound.silent (by simpa using hDeaf)
      simp [Tracker.addresses, hNone] at hKnown
    refine ⟨headset, attempt.tracker, rfl, if_pos hListening, ?_, ?_, ?_⟩
    · simp [hActive]
    · simpa [hActive, Link.address?] using hOther
    · exact Tracker.isSome_find?_iff.mpr hKnown
  · rintro ⟨headset, base, rfl, hBase, hOpen, hOther, hKnown⟩
    obtain rfl : attempt.tracker = base := by
      rw [Tracker.listening?] at hBase
      split at hBase
      · exact Option.some.inj hBase
      · cases hBase
    cases hLink : attempt.tracker.link with
    | idle => exact absurd hLink hOpen
    | activating address since =>
      have hHeadset := hPending address since hLink
      rw [hSpeaker] at hHeadset
      cases hHeadset
    | active address =>
      refine ⟨headset, address, rfl, Tracker.isSome_find?_iff.mp hKnown, rfl, ?_⟩
      simpa [hLink, Link.address?] using hOther

/-- Wherever in a session the route is changed, it takes one command at most to silence what was heard
and then one at most to make the next device heard, exactly if it is not the loudspeaker that gives
way to a headset while another headset has an open link. Where nothing is routed, or the device is
routed already, nothing is said. -/
theorem route_change_brief_iff (config : SwitchConfig) (platform : σ) (moves : List (Move σ))
    (beats : List Beat) {attempt : Switch σ}
    (hAttempt : ChangesRoute (beats.foldl beat ((create config platform).run moves)) attempt)
    (device : Option Device) (now : Nat) :
    let outcome := attempt.route.routeTo device attempt.tracker.listening? now attempt.host
    ∃ said, outcome.host.commands = attempt.host.commands ++ said ∧
      (attempt.route.isRouting = false ∨ attempt.route.routed = device → said = []) ∧
        (Brief said ↔ ¬ attempt.SilencesTwice device) := by
  intro outcome
  have hConsistent : Consistent config.order (beats.foldl beat ((create config platform).run moves)) :=
    List.foldlRecOn _ _ (consistent_run config platform moves) fun _ hBefore beat _ =>
      hBefore.beat beat
  obtain ⟨hSound, hPending⟩ := hAttempt.steady hConsistent
  refine ⟨_, (Issued.changing _ device _ now _).commands, Route.changing_idle, ?_⟩
  rw [silencesTwice_iff hSound hPending]
  exact Route.brief_changing_iff

/-- The loudspeaker, chosen by hand, gives way to a headset that is chosen by hand. -/
theorem route_change_brief_chosen :
    let config : SwitchConfig := ⟨.usual, usualLinkTimeout, true, false⟩
    let handset : Handset := { Handset.fresh with connected := [⟨"Car", "BB"⟩] }
    let moves : List (Move Handset) := [.operation (.start none) 0, .operation .activate 0,
      .operation .pump 0, .operation (.select .speakerphone) 0]
    let attempt := (((create config handset).run moves).pinTo
      (.bluetoothHeadset ⟨"Car", "BB"⟩)).recompute []
    ((create config handset).run moves).ChangesRoute attempt ∧
      attempt.route.routed = some .speakerphone ∧
      ∃ said, (attempt.routeOnce 0).2.host.commands = attempt.host.commands ++ said ∧ Brief said := by
  intro config handset moves attempt
  have hBegun : ((create config handset).run moves).RoutesFrom attempt :=
    .choose (.bluetoothHeadset ⟨"Car", "BB"⟩) (by decide) (by decide)
  have hAttempt : ((create config handset).run moves).ChangesRoute attempt :=
    .attempt 0 hBegun .first
  have hSpeaker : attempt.route.routed = some .speakerphone := by decide
  have hIdle : attempt.tracker.link = .idle := by decide
  have hAll := route_change_brief_iff config handset moves [] (by rwa [List.foldl_nil])
    attempt.selector.selected 0
  clear_value attempt
  obtain ⟨said, hSaid, _, hBrief⟩ := hAll
  refine ⟨hAttempt, hSpeaker, said, hSaid, hBrief.mpr ?_⟩
  rintro ⟨_, _, _, address, _, _, hActive, _⟩
  cases hIdle.symm.trans hActive

/-- A belated confirmation opens the link of a headset that gave way to the jack. When the loudspeaker
then gives way to another headset, both are silenced. -/
theorem speaker_and_link_silenced :
    let config : SwitchConfig := ⟨.wiredFirst, usualLinkTimeout, true, false⟩
    let switch := (create config Handset.fresh).handsetRun
      [.operation (.start none) 0, .operation .activate 0, .handset (.connect ⟨"Buds", "AA"⟩),
        .handset (.plug "Jack"), .operation .pump 0, .operation (.select .speakerphone) 0,
        .handset (.connect ⟨"Car", "BB"⟩), .operation .pump 0]
    let attempt := (switch.pinTo (.bluetoothHeadset ⟨"Car", "BB"⟩)).recompute []
    let said := [Command.setSpeakerphone false, .disableLink, .enableLink "BB"]
    (switch.host.queue = [] ∧ (attempt.routeOnce 0).2.host.commands = attempt.host.commands ++ said) ∧
      ¬ Brief said := by
  intro config switch attempt said
  exact ⟨by decide, fun hBrief => absurd hBrief.length_le (by decide)⟩

end Switch

end CallAudio
