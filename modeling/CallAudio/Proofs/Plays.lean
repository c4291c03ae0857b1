import CallAudio.Proofs.Pairings
import CallAudio.Scenario.Play

/-! # What a scenario shows

Every step of a scenario is shown, and every command to the platform once, after the step that caused
it. Since the switch is stopped in the end, whatever a scenario had it take from the platform is given
back by then.
-/

namespace CallAudio

def HandsetAction.isScripted : HandsetAction → Bool
  | connect _ => true
  | disconnect _ => true
  | reportBluetooth _ => true
  | plug _ => true
  | unplug => true
  | setPermission _ => true
  | _ => false

/-- Steps leave alone whether focus is granted, and the audio settings. -/
theorem Host.react_scripted (host : Host Handset) {action : HandsetAction}
    (h : action.isScripted = true) :
    (host.react action).platform.grantsFocus = host.platform.grantsFocus ∧
      (host.react action).platform.audio = host.platform.audio ∧
      (host.react action).commands = host.commands := by
  have hBluetooth : ∀ (host : Host Handset) event,
      (host.reportBluetooth event).platform = host.platform := fun host event => by
    obtain ⟨_, hEq⟩ := host.reportBluetooth_eq event
    rw [hEq]
  have hWired : ∀ (host : Host Handset) event,
      (host.reportWired event).platform = host.platform := fun host event => by
    obtain ⟨_, hEq⟩ := host.reportWired_eq event
    rw [hEq]
  obtain ⟨_, _, _, hEq, _⟩ := host.react_eq action
  have hCommands : (host.react action).commands = host.commands := by rw [hEq]
  cases action with
  | connect | disconnect | reportBluetooth =>
    simp only [Host.react, Host.connect, Host.disconnect, hBluetooth, Host.adjust]
    exact ⟨trivial, trivial, hCommands⟩
  | plug | unplug =>
    simp only [Host.react, Host.plug, Host.unplug, hWired, Host.adjust]
    exact ⟨trivial, trivial, hCommands⟩
  | setPermission on => exact ⟨rfl, rfl, rfl⟩
  | _ => cases h

namespace Play

section Keeping

variable {kept : Switch Handset → Prop}
  (hBeat : ∀ switch beat, kept switch → kept (switch.beat beat))
  (hReact : ∀ switch action, action.isScripted = true → kept switch → kept (switch.react action))

include hBeat

theorem keeps_await {count finish : Nat} {state : Switch Handset × Nat} (h : kept state.1) :
    kept (await count finish state).1 := by
  induction count generalizing state with
  | zero => exact h
  | succ count ih =>
    obtain ⟨switch, now⟩ := state
    have hNext := hBeat switch (.callback now) h
    rw [await, happening?]
    simp only [Switch.beat] at hNext ⊢
    cases hQueue : switch.next? now with
    | some next =>
      rw [hQueue] at hNext
      exact ih hNext
    | none =>
      cases deadline? switch with
      | none => exact h
      | some deadline =>
        simp only
        split
        · rename_i hLate
          split at hLate
          · cases hLate
            exact ih (hBeat switch (.poll _) h)
          · cases hLate
        · exact h

include hReact

/-- What every beat and everything that a step does to the handset keep, a step keeps. -/
theorem keeps_act {switch : Switch Handset} (h : kept switch) (now : Nat) (step : Step) :
    kept (act switch now step).2 := by
  have hPerform := fun operation => Switch.perform_induction hBeat h operation now
  cases step with
  | start => exact hPerform (.start _)
  | stop => exact hPerform .stop
  | activate =>
    have hActivated : kept (switch.activate now).2 := hPerform .activate
    rw [act]
    cases hResult : switch.activate now with
    | mk result activated =>
      rw [hResult] at hActivated
      cases result <;> exact hActivated
  | deactivate => exact hPerform .deactivate
  | select kind address =>
    rw [act]
    split
    · exact hPerform (.select _)
    · exact h
  | clearSelection => exact hPerform .clearSelection
  | hostResumed => exact hPerform .hostResumed
  | wait time => exact keeps_await hBeat h
  | _ => exact hReact _ _ rfl h

theorem keeps_step {play : Play} (h : kept play.switch) (step : Step) :
    kept (play.step step).switch :=
  Switch.perform_induction hBeat (keeps_act hBeat hReact h play.now step) .pump _

theorem keeps_steps {play : Play} (h : kept play.switch) (steps : List Step) :
    kept (steps.foldl Play.step play).switch :=
  List.foldlRecOn (motive := fun play => kept play.switch) steps Play.step h
    fun _ hPlay step _ => keeps_step hBeat hReact hPlay step

end Keeping

end Play

namespace Output

def command? : Output → Option Command
  | command issued => some issued
  | _ => none

def step? : Output → Option Step
  | step done => some done
  | _ => none

end Output

namespace Switch

variable {σ : Type} [Platform σ] {before after : Switch σ}

theorem Dealing.issued (h : before.Dealing after) :
    ∃ issued, Issued issued before.host after.host := by
  cases h with
  | take hTaking =>
    cases hTaking with
    | shift hShifts =>
      obtain ⟨issued, hIssued, _⟩ := hShifts.voices
      exact ⟨issued, hIssued⟩
    | prepare hIssued | focus _ _ hIssued | listen _ hIssued | register _ hIssued =>
      exact ⟨_, hIssued⟩
  | endCall _ hIssued | deafen _ hIssued | unregister _ hIssued => exact ⟨_, hIssued⟩

theorem commands_beat (switch : Switch σ) (beat : Beat) :
    switch.host.commands <+: (switch.beat beat).host.commands := by
  let grown (after : Switch σ) : Prop := switch.host.commands <+: after.host.commands
  have hDealing : ∀ before after, Dealing before after → grown before → grown after := by
    intro before after hDealing hGrown
    obtain ⟨issued, hIssued⟩ := hDealing.issued
    exact List.IsPrefix.trans hGrown ⟨issued, hIssued.commands.symm⟩
  exact (dealings_beat switch beat).keeps hDealing (List.prefix_refl _)

end Switch

namespace Play

theorem command?_told (before after : Switch Handset) :
    (told before after).filterMap Output.command? = [] := by
  rw [told, List.filterMap_filterMap, List.filterMap_eq_nil_iff]
  intro notice _
  cases notice <;> rfl

theorem step?_told (before after : Switch Handset) :
    (told before after).filterMap Output.step? = [] := by
  rw [told, List.filterMap_filterMap, List.filterMap_eq_nil_iff]
  intro notice _
  cases notice <;> rfl

theorem command?_issued (before after : Switch Handset) :
    (issued before after).filterMap Output.command? =
      after.host.commands.drop before.host.commands.length := by
  rw [issued, List.filterMap_map]
  exact List.filterMap_some

theorem step?_issued (before after : Switch Handset) :
    (issued before after).filterMap Output.step? = [] := by
  rw [issued, List.filterMap_map, List.filterMap_eq_nil_iff]
  exact fun _ _ => rfl

theorem command?_rejected (rejection : Option String) :
    (rejection.toList.map Output.rejected).filterMap Output.command? = [] := by
  cases rejection <;> rfl

theorem step?_rejected (rejection : Option String) :
    (rejection.toList.map Output.rejected).filterMap Output.step? = [] := by
  cases rejection <;> rfl

structure Shows (done : List Step) (play : Play) : Prop where
  steps : play.outputs.filterMap Output.step? = done
  commands : play.outputs.filterMap Output.command? = play.switch.host.commands

theorem commands_step (play : Play) (step : Step) :
    play.switch.host.commands <+: (play.step step).switch.host.commands := by
  let grown (after : Switch Handset) : Prop :=
    play.switch.host.commands <+: after.host.commands
  have hBeat : ∀ switch beat, grown switch → grown (switch.beat beat) :=
    fun switch beat hGrown => List.IsPrefix.trans hGrown (switch.commands_beat beat)
  refine keeps_step hBeat (fun switch action hScripted hGrown => ?_) (List.prefix_refl _) step
  change play.switch.host.commands <+: (switch.react action).host.commands
  rw [Switch.react, (switch.host.react_scripted hScripted).2.2]
  exact hGrown

theorem Shows.step {done : List Step} {play : Play} (h : play.Shows done) (step : Step) :
    (play.step step).Shows (done ++ [step]) := by
  have hGrown := commands_step play step
  constructor
  · simp only [Play.step, List.filterMap_append, h.steps, step?_told, step?_rejected, step?_issued,
      List.append_nil]
    rfl
  · have hMarker : [Output.step step].filterMap Output.command? = [] := rfl
    simp only [Play.step, List.filterMap_append, h.commands, hMarker, command?_told,
      command?_rejected, command?_issued, List.append_nil]
    exact List.prefix_iff_eq_append.mp hGrown

theorem Shows.steps_done {done : List Step} {play : Play} (h : play.Shows done)
    (steps : List Step) : (steps.foldl Play.step play).Shows (done ++ steps) := by
  induction steps generalizing play done with
  | nil => simpa using h
  | cons step steps ih => simpa using ih (h.step step)

theorem Shows.finish {done : List Step} {play : Play} (h : play.Shows done) :
    play.finish.Shows done := by
  have hGrown : play.switch.host.commands <+: play.switch.stop.host.commands :=
    play.switch.commands_beat (.act .stop play.now)
  constructor
  · simp only [Play.finish, List.filterMap_append, h.steps, step?_told, step?_issued,
      List.append_nil]
  · simp only [Play.finish, List.filterMap_append, h.commands, command?_told, command?_issued,
      List.append_nil]
    exact List.prefix_iff_eq_append.mp hGrown

theorem outputs_steps (play : Play) (steps : List Step) :
    play.outputs <+: (steps.foldl Play.step play).outputs := by
  induction steps generalizing play with
  | nil => exact List.prefix_refl _
  | cons step steps ih =>
    refine List.IsPrefix.trans ?_ (ih (play.step step))
    simp only [Play.step, List.append_assoc]
    exact List.prefix_append _ _

structure Orderly (config : SwitchConfig) (granted : Bool) (switch : Switch Handset) : Prop where
  consistent : Switch.Consistent config.order switch
  tidy : Switch.Tidy config switch
  receives : switch.Receives
  focuses : switch.Focuses granted
  modal : switch.Modal

variable {config : SwitchConfig} {granted : Bool} {switch : Switch Handset}

theorem Orderly.beat (h : Orderly config granted switch) (beat : Beat) :
    Orderly config granted (switch.beat beat) :=
  ⟨h.consistent.beat beat, h.tidy.beat h.consistent beat, h.receives.beat beat, h.focuses.beat beat,
    h.modal.beat beat⟩

theorem Orderly.react (h : Orderly config granted switch) {action : HandsetAction}
    (hScripted : action.isScripted = true) : Orderly config granted (switch.react action) := by
  obtain ⟨hGrants, hAudio, hCommands⟩ := switch.host.react_scripted hScripted
  have hSame : ∀ {pairing : Pairing} {held : Bool}, switch.Paired pairing held →
      (switch.react action).Paired pairing held := fun hPaired => hPaired.congr hCommands
  refine ⟨h.consistent.congr rfl rfl rfl rfl rfl, ?_, ⟨hSame h.receives.wired,
    hSame h.receives.listening⟩, ⟨hGrants.trans h.focuses.grants,
    fun hGranted => hSame (h.focuses.paired hGranted), fun hDeclined => ?_⟩,
    ⟨hSame h.modal.paired, h.modal.saved, fun hIdle => ?_⟩⟩
  · exact h.tidy.congr id rfl rfl rfl rfl ⟨_, _, rfl⟩ (Host.registrations_react _ action)
  · obtain ⟨hFree, hNever⟩ := h.focuses.declined hDeclined
    exact ⟨hFree, hCommands ▸ hNever⟩
  · exact (congrArg AudioState.mode hAudio).trans (h.modal.mode hIdle)

theorem orderly_begin (scenario : Scenario) (config : SwitchConfig)
    (hNormal : scenario.handset.audio.mode = .normal) :
    Orderly config scenario.handset.grantsFocus (begin scenario config).switch := by
  have hCreated := Issued.writeAll (Host.ofPlatform scenario.handset config.logging)
    [.debug "Creating audio switch" [("order", config.order.text),
      ("sco_timeout_ms", toString config.linkTimeout)], Selector.creationLine config.order]
  have hCommands : (begin scenario config).switch.host.commands = [] := hCreated.commands
  have hPlatform : (begin scenario config).switch.host.platform = scenario.handset :=
    hCreated.platform
  have hPaired : ∀ pairing, (begin scenario config).switch.Paired pairing false := fun pairing => by
    rw [Switch.Paired, hCommands]
    rfl
  refine ⟨(Switch.consistent_create config scenario.handset).congr rfl rfl rfl rfl rfl,
    (Switch.tidy_create config scenario.handset).congr id rfl rfl rfl rfl ⟨_, _, rfl⟩ rfl,
    ⟨hPaired _, hPaired _⟩, ⟨congrArg Handset.grantsFocus hPlatform, fun _ => hPaired _, fun _ => ?_⟩,
    ⟨hPaired _, rfl, fun _ => ?_⟩⟩
  · rw [hCommands]
    exact ⟨rfl, List.not_mem_nil⟩
  · rw [hPlatform, hNormal]

theorem Orderly.play (scenario : Scenario) (config : SwitchConfig)
    (hNormal : scenario.handset.audio.mode = .normal) :
    Orderly config scenario.handset.grantsFocus (scenario.play config).switch :=
  (keeps_steps (fun _ beat h => h.beat beat) (fun _ _ hScripted h => h.react hScripted)
    (orderly_begin scenario config hNormal) scenario.steps).beat (.act .stop 0)

/-- Once the switch is stopped it holds nothing any more. -/
theorem Orderly.balanced (h : Orderly config granted switch) (hStopped : switch.phase = .stopped) :
    Pairing.wired.Balanced switch.host.commands ∧ Pairing.listening.Balanced switch.host.commands ∧
      (if granted then Pairing.focus.Balanced switch.host.commands
        else .abandonFocus ∉ switch.host.commands) ∧
      Pairing.mode.Balanced switch.host.commands := by
  have hWired : switch.wired.registered = false :=
    Bool.eq_false_iff.mpr fun hRegistered => h.tidy.registered hRegistered hStopped
  have hListening : switch.tracker.listening = false :=
    Bool.eq_false_iff.mpr fun hHears => h.tidy.listening hHears hStopped
  have hFocus := h.consistent.focusHeld_of_stopped hStopped
  have hMode : switch.route.alters = false := by
    rw [Route.alters, h.consistent.activated_of_stopped hStopped]
    rfl
  refine ⟨h.receives.wired.balanced hWired, h.receives.listening.balanced hListening, ?_,
    h.modal.paired.balanced hMode⟩
  split
  · rename_i hGranted
    exact (h.focuses.paired hGranted).balanced hFocus
  · rename_i hDeclined
    exact (h.focuses.declined (by simpa using hDeclined)).2

theorem phase_stop (switch : Switch Handset) : switch.stop.phase = .stopped := by
  rw [Switch.stop]
  split
  · assumption
  · rfl

/-- A handset that a document describes begins with the usual mode. -/
theorem mode_of_document {document : Toml.Value} {scenario : Scenario}
    (h : Scenario.ofToml? document = some scenario) : scenario.handset.audio.mode = .normal := by
  have hHandset : ∀ {value : Toml.Value} {handset : Handset},
      Scenario.handset? value = some handset → handset.audio = .idle := by
    intro value handset hRead
    simp only [Scenario.handset?, Option.pure_def, Option.bind_eq_bind, Option.bind_eq_some_iff,
      Option.some.injEq] at hRead
    obtain ⟨_, _, _, _, _, _, _, _, _, _, _, _, rfl⟩ := hRead
    rfl
  simp only [Scenario.ofToml?, Option.pure_def, Option.bind_eq_bind, Option.bind_eq_some_iff,
    Option.some.injEq] at h
  obtain ⟨handset, hRead, _, _, rfl⟩ := h
  cases hPlatform : document.get? "platform" with
  | none =>
    rw [hPlatform] at hRead
    cases hRead
    rfl
  | some value =>
    rw [hPlatform] at hRead
    exact congrArg AudioState.mode (hHandset hRead)

/-- A scenario is shown complete: its steps in order, and every command to the platform, those of the
final stop included, once and in the order issued; before the marker of a step stands whatever was
issued up to then. And it is balanced: receivers, focus that is granted and the mode of a call are
taken and given back in turn, and nothing is held in the end. The handset begins with the usual mode,
as every one does that a document describes. -/
theorem play_complete_and_balanced (scenario : Scenario) (config : SwitchConfig)
    (hNormal : scenario.handset.audio.mode = .normal) :
    let play := scenario.play config
    let commands := play.switch.host.commands
    play.outputs.filterMap Output.step? = scenario.steps ∧
      play.outputs.filterMap Output.command? = commands ∧
      (∀ done step later, scenario.steps = done ++ step :: later →
        let before := done.foldl Play.step (begin scenario config)
        (∃ rest, play.outputs = before.outputs ++ .step step :: rest) ∧
          before.outputs.filterMap Output.step? = done ∧
          before.outputs.filterMap Output.command? = before.switch.host.commands) ∧
      Pairing.wired.Balanced commands ∧ Pairing.listening.Balanced commands ∧
      (if scenario.handset.grantsFocus then Pairing.focus.Balanced commands
        else .abandonFocus ∉ commands) ∧
      Pairing.mode.Balanced commands := by
  intro play commands
  have hBegin : (begin scenario config).Shows [] := by
    refine ⟨rfl, ?_⟩
    exact (Issued.writeAll (Host.ofPlatform scenario.handset config.logging) _).commands.symm
  obtain ⟨hSteps, hCommands⟩ := (hBegin.steps_done scenario.steps).finish
  refine ⟨hSteps, hCommands, fun done step later hSplit => ?_,
    (Orderly.play scenario config hNormal).balanced (phase_stop _)⟩
  obtain ⟨hDone, hBefore⟩ := hBegin.steps_done done
  have hShown : scenario.play config = (later.foldl Play.step
      ((done.foldl Play.step (begin scenario config)).step step)).finish := by
    rw [Scenario.play, hSplit, List.foldl_append, List.foldl_cons]
  obtain ⟨shown, hOutputs⟩ := outputs_steps
    ((done.foldl Play.step (begin scenario config)).step step) later
  refine ⟨?_, hDone, hBefore⟩
  rw [show play = _ from hShown]
  simp only [Play.finish, ← hOutputs]
  simp only [Play.step, List.append_assoc]
  exact ⟨_, rfl⟩

/-- A call that nobody ends, begun twice, with Bluetooth permitted no more on the way, as a document
describes it. -/
theorem play_complete_and_balanced_abrupt :
    let scenario : Scenario := ⟨Handset.fresh, [.start, .connect ⟨"Buds", "AA"⟩, .activate,
      .revokePermission, .activate, .stop, .start, .activate]⟩
    let simple (action : String) : Toml.Value := .table [("action", .string action)]
    let document : Toml.Value := .table [("step", .array [simple "start",
      .table [("action", .string "bluetooth_connect"), ("name", .string "Buds"),
        ("address", .string "AA")],
      simple "activate", simple "revoke_permission", simple "activate", simple "stop",
      simple "start", simple "activate"])]
    let play := scenario.play ⟨.usual, usualLinkTimeout, true, false⟩
    Scenario.ofToml? document = some scenario ∧ scenario.handset.audio.mode = .normal ∧
      play.outputs.filterMap Output.step? = scenario.steps ∧
      Pairing.wired.Balanced play.switch.host.commands ∧
      Pairing.focus.Balanced play.switch.host.commands ∧
      play.switch.host.commands.filter Command.isMode =
        [.setMode .inCommunication, .setMode .normal, .setMode .inCommunication, .setMode .normal] := by
  intro scenario simple document
  simp only
  have hRead : Scenario.ofToml? document = some scenario := rfl
  have hNormal : scenario.handset.audio.mode = .normal := mode_of_document hRead
  obtain ⟨hSteps, _, _, hWired, _, hFocus, _⟩ :=
    play_complete_and_balanced scenario ⟨.usual, usualLinkTimeout, true, false⟩ hNormal
  exact ⟨hRead, hNormal, hSteps, hWired, hFocus, by decide⟩

end Play

end CallAudio
