import CallAudio.Proofs.Restoring

/-! # Commands that take turns

What a switch takes from its platform it gives back before it takes it again. So the commands that
take and give back alternate, and its books tell whose turn it is: a receiver, focus that the
platform grants, and the mode of a call are each held or not.
-/

namespace CallAudio

/-- Two commands that take turns among those that `covers` picks out. -/
structure Pairing where
  covers : Command → Bool
  takes : Command
  returns : Command

def Command.isMode : Command → Bool
  | setMode _ => true
  | _ => false

namespace Pairing

def wired : Pairing where
  covers command := command = .registerWired || command = .unregisterWired
  takes := .registerWired
  returns := .unregisterWired

def listening : Pairing where
  covers command := command = .startListening || command = .stopListening
  takes := .startListening
  returns := .stopListening

def focus : Pairing where
  covers := Command.isFocus
  takes := .requestFocus
  returns := .abandonFocus

def mode : Pairing where
  covers := Command.isMode
  takes := .setMode .inCommunication
  returns := .setMode .normal

variable (pairing : Pairing)

/-- Whether something is held after `command`, unless it is out of turn. -/
def turn (held : Bool) (command : Command) : Option Bool :=
  if command = (if held then pairing.returns else pairing.takes) then some !held else none

def after (commands : List Command) (held : Bool) : Option Bool :=
  (commands.filter pairing.covers).foldlM pairing.turn held

/-- Each taking command is followed by the one that gives back, and nothing is held in the end. -/
def Balanced (commands : List Command) : Prop :=
  ∃ n, commands.filter pairing.covers =
    (List.replicate n [pairing.takes, pairing.returns]).flatten

theorem after_append (first last : List Command) (held : Bool) :
    pairing.after (first ++ last) held = (pairing.after first held).bind (pairing.after last) := by
  rw [after, List.filter_append, List.foldlM_append]
  rfl

theorem after_other {pairing : Pairing} {commands : List Command}
    (h : ∀ command ∈ commands, pairing.covers command = false) (held : Bool) :
    pairing.after commands held = some held := by
  rw [after, List.filter_eq_nil_iff.mpr fun command hMem => by simp [h command hMem]]
  rfl

/-- Commands that take turns and leave nothing held come in pairs. -/
theorem pairs_of_turns {pairing : Pairing} : ∀ {commands : List Command},
    commands.foldlM pairing.turn false = some false →
      ∃ n, commands = (List.replicate n [pairing.takes, pairing.returns]).flatten
  | [], _ => ⟨0, rfl⟩
  | [command], h => by
    by_cases hTakes : command = pairing.takes <;> simp [turn, hTakes] at h
  | first :: second :: rest, h => by
    by_cases hTakes : first = pairing.takes
    · by_cases hReturns : second = pairing.returns
      · have hTurns : rest.foldlM pairing.turn false = some false := by
          simpa [turn, hTakes, hReturns] using h
        obtain ⟨n, hRest⟩ := pairs_of_turns hTurns
        exact ⟨n + 1, by rw [hTakes, hReturns, hRest]; rfl⟩
      · simp [turn, hTakes, hReturns] at h
    · simp [turn, hTakes] at h

end Pairing

namespace Switch

variable {σ : Type} [Platform σ] {before after switch : Switch σ} {pairing : Pairing}
  {held next : Bool}

def Paired (pairing : Pairing) (held : Bool) (switch : Switch σ) : Prop :=
  pairing.after switch.host.commands false = some held

theorem Paired.step (h : before.Paired pairing held) {issued : List Command}
    (hIssued : Issued issued before.host after.host)
    (hTurn : pairing.after issued held = some next) : after.Paired pairing next := by
  rw [Paired, hIssued.commands, Pairing.after_append, h]
  exact hTurn

omit [Platform σ] in
theorem Paired.congr (h : before.Paired pairing held)
    (hCommands : after.host.commands = before.host.commands) : after.Paired pairing held := by
  rw [Paired, hCommands]
  exact h

omit [Platform σ] in
/-- Nothing is held any more, so the commands come in pairs. -/
theorem Paired.balanced (h : switch.Paired pairing held) (hFree : held = false) :
    pairing.Balanced switch.host.commands := by
  rw [Paired, hFree] at h
  exact Pairing.pairs_of_turns h

theorem Paired.same (h : before.Paired pairing held) {issued : List Command}
    (hIssued : Issued issued before.host after.host)
    (hOther : ∀ command ∈ issued, pairing.covers command = false) : after.Paired pairing held :=
  h.step hIssued (Pairing.after_other hOther held)

omit [Platform σ] in
/-- The end of a call says nothing but what is about its audio. -/
theorem isAudio_of_ending {command : Command}
    (h : command ∈ switch.route.silencing switch.tracker.listening? ++
      (if switch.route.focusHeld then [.abandonFocus] else []) ++ switch.route.restoring) :
    command.isAudio = true := by
  rcases List.mem_append.mp h with hCall | hRestoring
  · rcases List.mem_append.mp hCall with hSilencing | hFocus
    · exact Command.isAudio_of_isRouting (Route.isRouting_of_mem_silencing hSilencing)
    · split at hFocus
      · rw [List.mem_singleton.mp hFocus]
        rfl
      · cases hFocus
  · simp [Command.isAudio, Route.isSetting_of_mem_restoring hRestoring]

/-! ## Receivers -/

structure Receives (switch : Switch σ) : Prop where
  wired : switch.Paired .wired switch.wired.registered
  listening : switch.Paired .listening switch.tracker.listening

theorem Receives.step (h : before.Receives) {issued : List Command}
    (hIssued : Issued issued before.host after.host)
    (hWired : Pairing.wired.after issued before.wired.registered = some after.wired.registered)
    (hListening : Pairing.listening.after issued before.tracker.listening =
      some after.tracker.listening) : after.Receives :=
  ⟨h.wired.step hIssued hWired, h.listening.step hIssued hListening⟩

theorem Receives.audio (h : before.Receives) {issued : List Command}
    (hIssued : Issued issued before.host after.host)
    (hAudio : ∀ command ∈ issued, command.isAudio = true)
    (hRegistered : after.wired.registered = before.wired.registered)
    (hListening : after.tracker.listening = before.tracker.listening) : after.Receives := by
  refine h.step hIssued ?_ ?_
  · rw [hRegistered]
    refine Pairing.after_other (fun command hMem => ?_) _
    have hCall := hAudio command hMem
    cases command <;> first | rfl | cases hCall
  · rw [hListening]
    refine Pairing.after_other (fun command hMem => ?_) _
    have hCall := hAudio command hMem
    cases command <;> first | rfl | cases hCall

theorem Receives.dealing (h : before.Receives) (hDealing : before.Dealing after) :
    after.Receives := by
  have hFields : ∀ {books : Books}, after.books = books →
      after.wired.registered = books.registered ∧ after.tracker.listening = books.listening :=
    fun hBooks => ⟨congrArg Books.registered hBooks, congrArg Books.listening hBooks⟩
  cases hDealing with
  | take hTaking =>
    cases hTaking with
    | shift hShifts =>
      obtain ⟨issued, hIssued, hRouting, _⟩ := hShifts.voices
      exact h.audio hIssued (fun command hMem => Command.isAudio_of_isRouting (hRouting command hMem))
        hShifts.registered hShifts.listening
    | prepare hIssued hBooks =>
      obtain ⟨hRegistered, hListening⟩ := hFields hBooks
      refine h.audio hIssued (fun command hMem => ?_) hRegistered hListening
      simp [Command.isAudio, Route.isSetting_of_mem_preparing hMem]
    | focus _ _ hIssued hBooks =>
      obtain ⟨hRegistered, hListening⟩ := hFields hBooks
      exact h.audio hIssued (by simp [Command.isAudio, Command.isFocus]) hRegistered hListening
    | listen hDeaf hIssued hBooks =>
      obtain ⟨hRegistered, hListening⟩ := hFields hBooks
      exact h.step hIssued (by rw [hRegistered]; rfl) (by rw [hDeaf, hListening]; rfl)
    | register hFree hIssued hBooks =>
      obtain ⟨hRegistered, hListening⟩ := hFields hBooks
      exact h.step hIssued (by rw [hFree, hRegistered]; rfl) (by rw [hListening]; rfl)
  | endCall _ hIssued hBooks =>
    obtain ⟨hRegistered, hListening⟩ := hFields hBooks
    exact h.audio hIssued (fun _ => isAudio_of_ending) hRegistered hListening
  | deafen hHears hIssued hBooks =>
    obtain ⟨hRegistered, hListening⟩ := hFields hBooks
    exact h.step hIssued (by rw [hRegistered]; rfl) (by rw [hHears, hListening]; rfl)
  | unregister hHeld hIssued hBooks =>
    obtain ⟨hRegistered, hListening⟩ := hFields hBooks
    exact h.step hIssued (by rw [hHeld, hRegistered]; rfl) (by rw [hListening]; rfl)

theorem Receives.beat (h : switch.Receives) (beat : Beat) : (switch.beat beat).Receives :=
  (dealings_beat switch beat).keeps (fun _ _ hDealing hBefore => Receives.dealing hBefore hDealing) h

/-! ## Focus -/

end Switch

theorem Handset.grantsFocus_carried (commands : List Command) (handset : Handset) :
    (commands.foldl (fun handset command => Platform.carryOut command handset)
      handset).grantsFocus = handset.grantsFocus := by
  obtain ⟨_, _, hCarried⟩ := Handset.carried commands handset
  rw [hCarried]

namespace Switch

variable {before after switch : Switch Handset}

structure Focuses (granted : Bool) (switch : Switch Handset) : Prop where
  grants : switch.host.platform.grantsFocus = granted
  paired : granted = true → switch.Paired .focus switch.route.focusHeld
  declined : granted = false →
    switch.route.focusHeld = false ∧ .abandonFocus ∉ switch.host.commands

theorem Focuses.step {granted : Bool} (h : before.Focuses granted) {issued : List Command}
    (hIssued : Issued issued before.host after.host)
    (hTurn : granted = true →
      Pairing.focus.after issued before.route.focusHeld = some after.route.focusHeld)
    (hNothing : granted = false → before.route.focusHeld = false →
      after.route.focusHeld = false ∧ .abandonFocus ∉ issued) : after.Focuses granted := by
  refine ⟨?_, fun hGranted => (h.paired hGranted).step hIssued (hTurn hGranted), fun hDeclined => ?_⟩
  · rw [hIssued.platform, Handset.grantsFocus_carried, h.grants]
  · obtain ⟨hFree, hNever⟩ := h.declined hDeclined
    obtain ⟨hStill, hNot⟩ := hNothing hDeclined hFree
    rw [hIssued.commands]
    exact ⟨hStill, by simp [hNever, hNot]⟩

theorem Focuses.other {granted : Bool} (h : before.Focuses granted) {issued : List Command}
    (hIssued : Issued issued before.host after.host)
    (hOther : ∀ command ∈ issued, command.isFocus = false)
    (hHeld : after.route.focusHeld = before.route.focusHeld) : after.Focuses granted := by
  refine h.step hIssued (fun _ => ?_) fun _ hFree => ⟨hHeld.trans hFree, fun hMem => ?_⟩
  · rw [hHeld]
    exact Pairing.after_other hOther _
  · cases hOther _ hMem

theorem Focuses.dealing {granted : Bool} (h : before.Focuses granted)
    (hDealing : before.Dealing after) : after.Focuses granted := by
  cases hDealing with
  | take hTaking =>
    cases hTaking with
    | shift hShifts =>
      obtain ⟨issued, hIssued, hRouting, _⟩ := hShifts.voices
      obtain ⟨_, hRoute⟩ := hShifts.route
      exact h.other hIssued
        (fun command hMem => Command.isFocus_of_isRouting (hRouting command hMem)) (by rw [hRoute])
    | prepare hIssued hBooks =>
      refine h.other hIssued
        (fun _ hMem => Command.isFocus_of_isSetting (Route.isSetting_of_mem_preparing hMem)) ?_
      exact (congrArg (fun books => books.route.focusHeld) hBooks).trans
        (prepare_eq before.route before.host).2.2
    | focus _ hFree hIssued hBooks =>
      have hHeld : after.route.focusHeld = granted :=
        (congrArg (fun books => books.route.focusHeld) hBooks).trans h.grants
      refine h.step hIssued ?_ fun hDeclined _ => ⟨hHeld.trans hDeclined, by simp⟩
      rintro rfl
      rw [hFree, hHeld]
      rfl
    | listen _ hIssued hBooks | register _ hIssued hBooks =>
      exact h.other hIssued (by simp [Command.isFocus])
        (congrArg (fun books => books.route.focusHeld) hBooks)
  | endCall _ hIssued hBooks =>
    have hFree : after.route.focusHeld = false :=
      congrArg (fun books => books.route.focusHeld) hBooks
    have hSilencing : ∀ command ∈ before.route.silencing before.tracker.listening?,
        command.isFocus = false :=
      fun _ hMem => Command.isFocus_of_isRouting (Route.isRouting_of_mem_silencing hMem)
    have hRestoring : ∀ command ∈ before.route.restoring, command.isFocus = false :=
      fun _ hMem => Command.isFocus_of_isSetting (Route.isSetting_of_mem_restoring hMem)
    refine h.step hIssued (fun _ => ?_) fun _ hBefore => ⟨hFree, fun hMem => ?_⟩
    · rw [Pairing.after_append, Pairing.after_append, Pairing.after_other hSilencing, hFree]
      cases before.route.focusHeld <;> exact Pairing.after_other hRestoring false
    · rw [hBefore] at hMem
      rcases List.mem_append.mp hMem with hFirst | hLast
      · cases hSilencing _ (by simpa using hFirst)
      · cases hRestoring _ hLast
  | deafen _ hIssued hBooks | unregister _ hIssued hBooks =>
    exact h.other hIssued (by simp [Command.isFocus])
      (congrArg (fun books => books.route.focusHeld) hBooks)

theorem Focuses.beat {granted : Bool} (h : switch.Focuses granted) (beat : Beat) :
    (switch.beat beat).Focuses granted :=
  (dealings_beat switch beat).keeps (fun _ _ hDealing hBefore => Focuses.dealing hBefore hDealing) h

end Switch

/-! ## The mode -/

theorem Command.isMode_of_isRouting {command : Command} (h : command.isRouting = true) :
    command.isMode = false := by
  cases command <;> first | rfl | cases h

theorem Handset.mode_carried {commands : List Command}
    (h : ∀ command ∈ commands, command.isMode = false) (handset : Handset) :
    (commands.foldl (fun handset command => Platform.carryOut command handset)
      handset).audio.mode = handset.audio.mode := by
  induction commands generalizing handset with
  | nil => rfl
  | cons command commands ih =>
    have hOther := h command List.mem_cons_self
    rw [List.foldl_cons, ih fun later hMem => h later (List.mem_cons_of_mem command hMem)]
    cases command <;> first | rfl | cases hOther

def Route.alters (route : Route) : Bool := route.activated && route.managesAudio

namespace Switch

variable {before after switch : Switch Handset}

structure Modal (switch : Switch Handset) : Prop where
  paired : switch.Paired .mode switch.route.alters
  saved : switch.route.saved.map (·.mode) = if switch.route.alters then some .normal else none
  mode : switch.route.alters = false → switch.host.platform.audio.mode = .normal

theorem Modal.other (h : before.Modal) {issued : List Command}
    (hIssued : Issued issued before.host after.host)
    (hOther : ∀ command ∈ issued, command.isMode = false)
    (hRoute : after.route.alters = before.route.alters ∧ after.route.saved = before.route.saved) :
    after.Modal := by
  obtain ⟨hAlters, hSaved⟩ := hRoute
  refine ⟨?_, ?_, ?_⟩ <;> rw [hAlters]
  · exact h.paired.same hIssued hOther
  · rw [hSaved]
    exact h.saved
  · rw [hIssued.platform, Handset.mode_carried hOther]
    exact h.mode

theorem Modal.prepare (h : before.Modal)
    (hIssued : Issued before.route.preparing before.host after.host)
    (hRoute : after.route = (before.route.prepare before.host).1) : after.Modal := by
  have hSaved := h.saved
  have hPaired := h.paired
  cases hActivated : before.route.activated with
  | true =>
    have hNothing : before.route.preparing = [] := by simp [Route.preparing, hActivated]
    exact h.other hIssued (by simp [hNothing]) (by simp [hRoute, Route.prepare, hActivated])
  | false =>
    cases hManages : before.route.managesAudio with
    | false =>
      have hNothing : before.route.preparing = [] := by simp [Route.preparing, hManages]
      exact h.other hIssued (by simp [hNothing])
        (by simp [hRoute, Route.prepare, Route.alters, hActivated, hManages])
    | true =>
      have hBefore : before.route.alters = false := by simp [Route.alters, hActivated]
      have hAfter : after.route.alters = true := by
        simp [hRoute, Route.prepare, Route.alters, hActivated, hManages]
      have hPreparing : before.route.preparing =
          [.setMode .inCommunication, .setMicrophoneMute false, .setSpeakerphone false] := by
        simp [Route.preparing, hActivated, hManages]
      rw [hBefore] at hPaired
      rw [hPreparing] at hIssued
      refine ⟨?_, ?_, ?_⟩ <;> rw [hAfter]
      · exact hPaired.step hIssued rfl
      · simp only [hRoute, Route.prepare, hActivated, hManages]
        exact congrArg some (h.mode hBefore)
      · rintro ⟨⟩

theorem Modal.endCall (h : before.Modal)
    (hIssued : Issued (before.route.silencing before.tracker.listening? ++
      (if before.route.focusHeld then [.abandonFocus] else []) ++ before.route.restoring)
      before.host after.host)
    (hRoute : after.route = { before.route with
      activated := false, focusHeld := false, saved := none, routed := none }) : after.Modal := by
  have hSilencing : ∀ command ∈ before.route.silencing before.tracker.listening? ++
      (if before.route.focusHeld then [.abandonFocus] else []), command.isMode = false := by
    intro command hMem
    rcases List.mem_append.mp hMem with hFirst | hFocus
    · exact Command.isMode_of_isRouting (Route.isRouting_of_mem_silencing hFirst)
    · split at hFocus
      · rw [List.mem_singleton.mp hFocus]
        rfl
      · cases hFocus
  have hAfter : after.route.alters = false := by rw [hRoute]; rfl
  have hSaved : after.route.saved = none := by rw [hRoute]
  have hKept := h.saved
  cases hBefore : before.route.alters with
  | false =>
    have hNone : before.route.saved = none := by simpa [hBefore] using hKept
    have hNothing : before.route.restoring = [] := by simp [Route.restoring, hNone]
    rw [hNothing, List.append_nil] at hIssued
    exact h.other hIssued hSilencing ⟨hAfter.trans hBefore.symm, hSaved.trans hNone.symm⟩
  | true =>
    obtain ⟨audio, hAudio, hNormal⟩ : ∃ audio, before.route.saved = some audio ∧
        audio.mode = .normal := by simpa [hBefore] using hKept
    have hRestoring : before.route.restoring = [.setMode .normal,
        .setSpeakerphone audio.speakerphoneOn, .setMicrophoneMute audio.microphoneMuted] := by
      simp [Route.restoring, hAudio, hNormal]
    have hPaired := h.paired
    rw [hRestoring] at hIssued
    rw [hBefore] at hPaired
    refine ⟨?_, ?_, fun _ => ?_⟩
    · rw [hAfter]
      refine hPaired.step hIssued ?_
      rw [Pairing.after_append, Pairing.after_other hSilencing]
      rfl
    · rw [hAfter, hSaved]
      rfl
    · rw [hIssued.platform, List.foldl_append]
      rfl

theorem Modal.dealing (h : before.Modal) (hDealing : before.Dealing after) : after.Modal := by
  cases hDealing with
  | take hTaking =>
    cases hTaking with
    | shift hShifts =>
      obtain ⟨issued, hIssued, hRouting, _⟩ := hShifts.voices
      obtain ⟨_, hRoute⟩ := hShifts.route
      refine h.other hIssued
        (fun command hMem => Command.isMode_of_isRouting (hRouting command hMem)) ?_
      rw [hRoute]
      exact ⟨rfl, rfl⟩
    | prepare hIssued hBooks => exact h.prepare hIssued (congrArg Books.route hBooks)
    | focus _ _ hIssued hBooks | listen _ hIssued hBooks | register _ hIssued hBooks =>
      refine h.other hIssued (by simp [Command.isMode]) ?_
      rw [show after.route = _ from congrArg Books.route hBooks]
      exact ⟨rfl, rfl⟩
  | endCall _ hIssued hBooks => exact h.endCall hIssued (congrArg Books.route hBooks)
  | deafen _ hIssued hBooks | unregister _ hIssued hBooks =>
    refine h.other hIssued (by simp [Command.isMode]) ?_
    rw [show after.route = _ from congrArg Books.route hBooks]
    exact ⟨rfl, rfl⟩

theorem Modal.beat (h : switch.Modal) (beat : Beat) : (switch.beat beat).Modal :=
  (dealings_beat switch beat).keeps (fun _ _ hDealing hBefore => Modal.dealing hBefore hDealing) h

end Switch

end CallAudio
