import CallAudio.Proofs.LinkBeats

/-! # Headsets that are routed over a borrowed link

A confirmation that comes after its request was withdrawn opens the link all the same. Routing that
finds such a link open makes no request of its own. Whether this happened is not part of the state,
so it is kept beside it.
-/

namespace CallAudio

/-- Where the link of a switch and that of its routed headset come from. -/
structure Loan where
  /-- The link is open, but what was said last about links is not the request for it. -/
  stale : Bool
  /-- The link was stale when the routed headset was last given it. -/
  borrowed : Bool
  deriving DecidableEq

def Loan.none : Loan := ⟨false, false⟩

def PreferredOrder.wiredFirst : PreferredOrder where
  kinds := [.wiredHeadset, .bluetoothHeadset, .earpiece, .speakerphone]
  nodup := by decide
  complete kind := by cases kind <;> decide

namespace Switch

variable {σ : Type}

/-- An open link is stale or not from the moment it opens. -/
def staleAfter (before after : Switch σ) (stale : Bool) : Bool :=
  match after.tracker.link with
  | .active address =>
    if before.tracker.link.address? = some address then stale
    else before.host.linkCommands.getLast? ≠ some (.enableLink address)
  | _ => false

/-- The routed headset keeps what it has until routing moves something. -/
def loanAfter (before after : Switch σ) (loan : Loan) : Loan where
  stale := before.staleAfter after loan.stale
  borrowed :=
    if after.host.linkCommands = before.host.linkCommands ∧
      after.route.routed = before.route.routed then loan.borrowed
    else before.staleAfter after loan.stale

structure Accounts (loan : Loan) (switch : Switch σ) : Prop where
  active : loan.stale = true → ∃ address, switch.tracker.link = .active address
  link : ∀ address, switch.tracker.link.address? = some address →
    (switch.host.linkCommands.getLast? = some (.enableLink address) ↔ loan.stale = false)
  routed : ∀ headset, switch.route.routed = some (.bluetoothHeadset headset) →
    (switch.host.linkCommands.getLast? = some (.enableLink headset.address) ↔
      loan.borrowed = false)

variable {loan : Loan} {before after switch : Switch σ}

theorem staleAfter_active {stale : Bool} (h : before.staleAfter after stale = true) :
    ∃ address, after.tracker.link = .active address := by
  rw [staleAfter] at h
  split at h
  · rename_i address hActive
    exact ⟨address, hActive⟩
  · cases h

theorem Accounts.stale_of_same (h : Accounts loan before)
    (hLink : after.tracker.link = before.tracker.link) :
    before.staleAfter after loan.stale = loan.stale := by
  rw [staleAfter, hLink]
  split
  · rename_i address hActive
    rw [hActive]
    exact if_pos rfl
  · rename_i hOther
    refine (Bool.eq_false_iff.mpr fun hStale => ?_).symm
    obtain ⟨address, hActive⟩ := h.active hStale
    exact hOther address hActive

/-- The flag of an open or requested link tells what was said last. -/
theorem Linkage.stale (h : before.Linkage after) (hBefore : Accounts loan before) {address : String}
    (hLink : after.tracker.link.address? = some address) :
    after.host.linkCommands.getLast? = some (.enableLink address) ↔
      before.staleAfter after loan.stale = false := by
  cases h with
  | closed hIdle =>
    rw [hIdle] at hLink
    cases hLink
  | asked other since hAsked hLast =>
    rw [hAsked] at hLink
    cases hLink
    simp [staleAfter, hAsked, hLast]
  | heeded hHeeds =>
    obtain ⟨hCommands, hSame | hIdle | ⟨other, hActive⟩⟩ := hHeeds
    · rw [hBefore.stale_of_same hSame, hCommands]
      exact hBefore.link address (hSame ▸ hLink)
    · rw [hIdle] at hLink
      cases hLink
    · rw [hActive] at hLink
      cases hLink
      simp only [staleAfter, hActive, hCommands]
      split
      · rename_i hKnown
        exact hBefore.link address hKnown
      · simp

theorem Accounts.kept (h : Accounts loan before) (hRelinks : before.Relinks after) :
    Accounts (before.loanAfter after loan) after := by
  -- A headset that was moved has the link, so the flag of the link is that of the headset.
  have hStale := @Linkage.stale _ _ _ _ hRelinks.link h
  refine ⟨staleAfter_active, fun address => hStale, fun headset hRouted => ?_⟩
  rw [loanAfter]
  split
  · rename_i hIdles
    rw [hIdles.1]
    exact h.routed headset (hIdles.2 ▸ hRouted)
  · rename_i hMoved
    rcases hRelinks.routed with hLinked | hIdles
    · exact hStale (hLinked headset hRouted)
    · exact absurd hIdles hMoved

theorem Accounts.congr (h : Accounts loan before) (hTracker : after.tracker = before.tracker)
    (hRoute : after.route = before.route)
    (hCommands : after.host.linkCommands = before.host.linkCommands) : Accounts loan after := by
  obtain ⟨hActive, hLink, hRouted⟩ := h
  rw [← hTracker] at hActive hLink
  rw [← hCommands] at hLink hRouted
  rw [← hRoute] at hRouted
  exact ⟨hActive, hLink, hRouted⟩

theorem accounts_create (config : SwitchConfig) (platform : σ) :
    Accounts .none (create config platform) := by
  refine ⟨?_, ?_, ?_⟩
  · rintro ⟨⟩
  · rintro _ ⟨⟩
  · rintro _ ⟨⟩

variable [Platform σ]

def watchBeat (watched : Loan × Switch σ) (beat : Beat) : Loan × Switch σ :=
  (watched.2.loanAfter (watched.2.beat beat) watched.1, watched.2.beat beat)

theorem snd_watchBeats (watched : Loan × Switch σ) (beats : List Beat) :
    (beats.foldl watchBeat watched).2 = beats.foldl beat watched.2 := by
  induction beats generalizing watched with
  | nil => rfl
  | cons first beats ih => exact ih (watchBeat watched first)

theorem accounts_watchBeats {order : PreferredOrder} {watched : Loan × Switch σ}
    (hConsistent : Consistent order watched.2) (h : Accounts watched.1 watched.2)
    (beats : List Beat) :
    let last := beats.foldl watchBeat watched
    Consistent order last.2 ∧ Accounts last.1 last.2 := by
  induction beats generalizing watched with
  | nil => exact ⟨hConsistent, h⟩
  | cons first beats ih => exact ih (hConsistent.beat first) (h.kept (hConsistent.relinks first))

def watch (watched : Loan × Switch Handset) : HandsetMove → Loan × Switch Handset
  | .operation operation now => (watched.2.beats operation now).foldl watchBeat watched
  | .handset action => (watched.1, watched.2.react action)

/-- The loan after everything that happened on the simulated handset. -/
def loanRun (switch : Switch Handset) (moves : List HandsetMove) : Loan :=
  (moves.foldl watch (.none, switch)).1

theorem snd_watch (watched : Loan × Switch Handset) (move : HandsetMove) :
    (watch watched move).2 = watched.2.handsetMove move := by
  cases move with
  | operation operation now =>
    rw [watch, snd_watchBeats, handsetMove, perform_eq_foldl]
  | handset action => rfl

theorem snd_watchRun (watched : Loan × Switch Handset) (moves : List HandsetMove) :
    (moves.foldl watch watched).2 = watched.2.handsetRun moves := by
  rw [handsetRun]
  induction moves generalizing watched with
  | nil => rfl
  | cons move moves ih =>
    rw [List.foldl_cons, List.foldl_cons, ih, snd_watch]

theorem commands_react (host : Host Handset) (action : HandsetAction) :
    (host.react action).commands = host.commands := by
  obtain ⟨_, _, _, hEq, _⟩ := host.react_eq action
  rw [hEq]

theorem accounts_watch {order : PreferredOrder} {watched : Loan × Switch Handset}
    (hConsistent : Consistent order watched.2) (h : Accounts watched.1 watched.2)
    (move : HandsetMove) :
    let next := watch watched move
    Consistent order next.2 ∧ Accounts next.1 next.2 := by
  cases move with
  | operation operation now => exact accounts_watchBeats hConsistent h _
  | handset action =>
    have hSame := congrArg (List.filter Command.isLink) (commands_react watched.2.host action)
    exact ⟨hConsistent.congr rfl rfl rfl rfl rfl, h.congr rfl rfl hSame⟩

theorem accounts_watchRun {order : PreferredOrder} {watched : Loan × Switch Handset}
    (hConsistent : Consistent order watched.2) (h : Accounts watched.1 watched.2)
    (moves : List HandsetMove) :
    let last := moves.foldl watch watched
    Consistent order last.2 ∧ Accounts last.1 last.2 := by
  induction moves generalizing watched with
  | nil => exact ⟨hConsistent, h⟩
  | cons move moves ih =>
    obtain ⟨hNext, hAccounts⟩ := accounts_watch hConsistent h move
    exact ih hNext hAccounts

/-- In every run, the last command about links asks for the link of the routed headset, unless the
headset was given a link that a belated confirmation had opened. -/
theorem routed_headset_asked_iff (config : SwitchConfig) (handset : Handset)
    (moves : List HandsetMove) {headset : Headset}
    (hRouted : ((create config handset).handsetRun moves).route.routed =
      some (.bluetoothHeadset headset)) :
    ((create config handset).handsetRun moves).host.linkCommands.getLast? =
        some (.enableLink headset.address) ↔
      ((create config handset).loanRun moves).borrowed = false := by
  obtain ⟨_, hAccounts⟩ := @accounts_watchRun config.order (.none, create config handset)
    (consistent_create config handset) (accounts_create config handset) moves
  rw [snd_watchRun] at hAccounts
  exact hAccounts.routed headset hRouted

theorem routed_headset_asked_after_plug :
    let config : SwitchConfig := ⟨.usual, usualLinkTimeout, true, false⟩
    let moves : List HandsetMove := [.operation (.start none) 0, .operation .activate 0,
      .handset (.connect ⟨"Buds", "AA"⟩), .handset (.plug "Jack"), .operation .pump 0,
      .handset .unplug, .operation .pump 0]
    ((create config Handset.fresh).handsetRun moves).host.linkCommands.getLast? =
        some (.enableLink "AA") ∧
      ((create config Handset.fresh).loanRun moves).borrowed = false := by
  intro config moves
  have hFree : ((create config Handset.fresh).loanRun moves).borrowed = false := by decide
  exact ⟨(@routed_headset_asked_iff config Handset.fresh moves ⟨"Buds", "AA"⟩ (by decide)).mpr hFree,
    hFree⟩

/-- With the jack before Bluetooth the same run ends with a routed headset and a closed link. -/
theorem routed_headset_link_closed :
    let config : SwitchConfig := ⟨.wiredFirst, usualLinkTimeout, true, false⟩
    let switch := (create config Handset.fresh).handsetRun
      [.operation (.start none) 0, .operation .activate 0, .handset (.connect ⟨"Buds", "AA"⟩),
        .handset (.plug "Jack"), .operation .pump 0, .handset .unplug, .operation .pump 0]
    switch.host.queue = [] ∧ switch.route.isRouting = true ∧
      switch.route.routed = some (.bluetoothHeadset ⟨"Buds", "AA"⟩) ∧
      switch.host.linkCommands.getLast? = some .disableLink := by
  decide

end Switch

end CallAudio
