import CallAudio.Proofs.Dealings

/-! # Focus as the commands have it

Whether the route counts focus as held follows from the commands alone: a request that the platform
grants takes focus, giving it back ends it, and nothing else is of account. On the simulated handset
the platform follows the same rule, so the two always agree.
-/

namespace CallAudio

def Command.isFocus : Command → Bool
  | requestFocus => true
  | abandonFocus => true
  | _ => false

theorem Command.isFocus_of_isSetting {command : Command} (h : command.isSetting = true) :
    command.isFocus = false := by
  cases command <;> first | rfl | cases h

theorem Command.isFocus_of_isRouting {command : Command} (h : command.isRouting = true) :
    command.isFocus = false := by
  cases command <;> first | rfl | cases h

variable {σ : Type} [Platform σ]

def focusOnce (command : Command) (platform : σ) (held : Bool) : Bool :=
  match command with
  | .requestFocus => Platform.grantsFocus platform || held
  | .abandonFocus => false
  | _ => held

def focusAfter : List Command → σ → Bool → Bool
  | [], _, held => held
  | command :: commands, platform, held =>
    focusAfter commands (Platform.carryOut command platform) (focusOnce command platform held)

theorem focusAfter_append (first last : List Command) (platform : σ) (held : Bool) :
    focusAfter (first ++ last) platform held =
      focusAfter last (first.foldl (fun platform command => Platform.carryOut command platform)
        platform) (focusAfter first platform held) := by
  induction first generalizing platform held with
  | nil => rfl
  | cons command first ih => exact ih _ _

theorem focusAfter_other {commands : List Command}
    (h : ∀ command ∈ commands, command.isFocus = false) (platform : σ) (held : Bool) :
    focusAfter commands platform held = held := by
  induction commands generalizing platform held with
  | nil => rfl
  | cons command commands ih =>
    have hOther := h command List.mem_cons_self
    rw [focusAfter, ih fun later hMem => h later (List.mem_cons_of_mem command hMem)]
    cases command <;> first | rfl | cases hOther

theorem focusHeld_carried (commands : List Command) (handset : Handset) :
    (commands.foldl (fun handset command => Platform.carryOut command handset) handset).focusHeld =
      focusAfter commands handset handset.focusHeld := by
  induction commands generalizing handset with
  | nil => rfl
  | cons command commands ih =>
    rw [List.foldl_cons, ih, focusAfter]
    cases command <;> rfl

namespace Switch

def TracksFocus (before after : Switch σ) : Prop :=
  ∃ issued, Issued issued before.host after.host ∧
    after.route.focusHeld = focusAfter issued before.host.platform before.route.focusHeld

variable {before middle after switch : Switch σ}

theorem TracksFocus.trans (h : before.TracksFocus middle) (h' : middle.TracksFocus after) :
    before.TracksFocus after := by
  obtain ⟨first, hFirst, hMiddle⟩ := h
  obtain ⟨last, hLast, hAfter⟩ := h'
  refine ⟨first ++ last, hFirst.trans hLast, ?_⟩
  rw [focusAfter_append, ← hFirst.platform, ← hMiddle]
  exact hAfter

theorem tracksFocus_of_other {issued : List Command} (hIssued : Issued issued before.host after.host)
    (hOther : ∀ command ∈ issued, command.isFocus = false)
    (hRoute : after.route.focusHeld = before.route.focusHeld) : before.TracksFocus after :=
  ⟨issued, hIssued, by rw [focusAfter_other hOther, hRoute]⟩

/-- Only a request and its return are of account. -/
theorem Dealing.tracksFocus (h : before.Dealing after) : before.TracksFocus after := by
  have hSetting : ∀ {commands : List Command}, (∀ command ∈ commands, command.isSetting = true) →
      ∀ command ∈ commands, command.isFocus = false :=
    fun hAll command hMem => Command.isFocus_of_isSetting (hAll command hMem)
  have hRouting : ∀ {commands : List Command}, (∀ command ∈ commands, command.isRouting = true) →
      ∀ command ∈ commands, command.isFocus = false :=
    fun hAll command hMem => Command.isFocus_of_isRouting (hAll command hMem)
  cases h with
  | take hTaking =>
    cases hTaking with
    | shift hShifts =>
      obtain ⟨issued, hIssued, hOnly, _⟩ := hShifts.voices
      obtain ⟨_, hRoute⟩ := hShifts.route
      exact tracksFocus_of_other hIssued (hRouting hOnly) (by rw [hRoute])
    | prepare hIssued hBooks =>
      have hFocus : after.route.focusHeld = before.route.focusHeld :=
        (congrArg (fun books => books.route.focusHeld) hBooks).trans
          (prepare_eq before.route before.host).2.2
      exact tracksFocus_of_other hIssued (hSetting fun _ => Route.isSetting_of_mem_preparing) hFocus
    | focus _ hFree hIssued hBooks =>
      refine ⟨_, hIssued, ?_⟩
      rw [show after.route = _ from congrArg Books.route hBooks, hFree]
      simp [focusAfter, focusOnce]
    | listen _ hIssued hBooks | register _ hIssued hBooks =>
      exact tracksFocus_of_other hIssued (by simp [Command.isFocus])
        (congrArg (fun books => books.route.focusHeld) hBooks)
  | endCall _ hIssued hBooks =>
    refine ⟨_, hIssued, ?_⟩
    rw [show after.route = _ from congrArg Books.route hBooks, focusAfter_append,
      focusAfter_append, focusAfter_other (hSetting fun _ => Route.isSetting_of_mem_restoring),
      focusAfter_other (hRouting fun _ => Route.isRouting_of_mem_silencing)]
    cases before.route.focusHeld <;> rfl
  | deafen _ hIssued hBooks | unregister _ hIssued hBooks =>
    exact tracksFocus_of_other hIssued (by simp [Command.isFocus])
      (congrArg (fun books => books.route.focusHeld) hBooks)

theorem Dealings.tracksFocus (h : before.Dealings after) : before.TracksFocus after := by
  induction h with
  | refl => exact tracksFocus_of_other (.refl _) (by simp) rfl
  | tail _ hLast ih => exact ih.trans hLast.tracksFocus

theorem tracksFocus_deactivateRoute (switch : Switch σ) :
    switch.TracksFocus switch.deactivateRoute := (dealings_deactivateRoute switch).tracksFocus

theorem tracksFocus_stop (switch : Switch σ) : switch.TracksFocus switch.stop :=
  (dealings_stop switch).tracksFocus

/-- Whatever happens in a beat, the route follows the commands about focus. -/
theorem tracksFocus_beat (switch : Switch σ) (beat : Beat) : switch.TracksFocus (switch.beat beat) :=
  (dealings_beat switch beat).tracksFocus

end Switch

end CallAudio
