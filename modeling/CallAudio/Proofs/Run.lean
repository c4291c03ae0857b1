import CallAudio.Switch.Session

/-! # Runs of a switch

The application uses a switch through its operations; between them the platform changes and its
callbacks arrive, in any order and at any time. Most operations apply the waiting callbacks first,
so an operation is a sequence of beats: one callback, one look at the deadline, or what the
operation does on its own. What every beat keeps, every run keeps.
-/

namespace CallAudio

inductive Operation
  | start (listener : Option Nat)
  | stop
  | activate
  | deactivate
  | select (device : Device)
  | clearSelection
  | hostResumed
  /-- Applies every waiting callback, then looks at the deadline. -/
  | pump
  | poll
  /-- Applies one waiting callback. -/
  | next
  | setDeviceListener (listener : Option Nat)
  | setHeadsetListener (listener : Option Nat)
  | setFocusListener (listener : Option Nat)
  | setLogging (on : Bool)

inductive Move (σ : Type)
  | operation (operation : Operation) (now : Nat)
  /-- A callback arrives, of any session and any content. -/
  | callback (callback : Callback)
  /-- The platform changes: what is permitted, what is available, what it will refuse. -/
  | platform (change : σ → σ)
  | focus (change : FocusChange)

inductive HandsetMove
  | operation (operation : Operation) (now : Nat)
  | handset (action : HandsetAction)

/-- What can happen to a switch on the simulated handset if callbacks of any session may still come
in, late or early. -/
inductive Incident
  | move (move : HandsetMove)
  | callback (callback : Callback)

/-- A part of an operation. -/
inductive Beat
  | callback (now : Nat)
  | poll (now : Nat)
  /-- What an operation does after the waiting callbacks were applied. -/
  | act (operation : Operation) (now : Nat)

namespace Host

theorem reportBluetooth_eq {σ : Type} (host : Host σ) (event : BluetoothEvent) :
    ∃ queue, host.reportBluetooth event = { host with queue } := by
  rw [reportBluetooth]
  split
  · exact ⟨_, rfl⟩
  · exact ⟨host.queue, rfl⟩

theorem reportWired_eq {σ : Type} (host : Host σ) (event : WiredEvent) :
    ∃ queue, host.reportWired event = { host with queue } := by
  rw [reportWired]
  split
  · exact ⟨_, rfl⟩
  · exact ⟨host.queue, rfl⟩

/-- The handset calls back and tells of focus, but it issues no commands, registers nobody and gives
away no focus. -/
theorem react_eq (host : Host Handset) (action : HandsetAction) :
    ∃ platform queue notices, host.react action = { host with platform, queue, notices } ∧
      platform.focusHeld = host.platform.focusHeld := by
  cases action with
  | connect headset =>
    obtain ⟨queue, hEq⟩ := reportBluetooth_eq _ (.connected headset)
    exact ⟨_, queue, _, hEq, rfl⟩
  | disconnect address =>
    obtain ⟨queue, hEq⟩ := reportBluetooth_eq _ (.disconnected address)
    exact ⟨_, queue, _, hEq, rfl⟩
  | reportBluetooth event =>
    obtain ⟨queue, hEq⟩ := reportBluetooth_eq host event
    exact ⟨_, queue, _, hEq, rfl⟩
  | plug name =>
    obtain ⟨queue, hEq⟩ := reportWired_eq _ (.plugged name)
    exact ⟨_, queue, _, hEq, rfl⟩
  | unplug =>
    obtain ⟨queue, hEq⟩ := reportWired_eq _ .unplugged
    exact ⟨_, queue, _, hEq, rfl⟩
  | reportWired event =>
    obtain ⟨queue, hEq⟩ := reportWired_eq host event
    exact ⟨_, queue, _, hEq, rfl⟩
  | changeFocus change =>
    rw [react, changeFocus]
    split
    · exact ⟨_, _, _, rfl, rfl⟩
    · exact ⟨_, _, _, rfl, rfl⟩
  | _ => exact ⟨_, _, _, rfl, rfl⟩

end Host

namespace Switch

variable {σ : Type}

def requeue (switch : Switch σ) (queue : List Callback) : Switch σ :=
  { switch with host := { switch.host with queue } }

variable [Platform σ]

def perform (switch : Switch σ) (operation : Operation) (now : Nat) : Switch σ :=
  match operation with
  | .start listener => switch.start listener now
  | .stop => switch.stop
  | .activate => (switch.activate now).2
  | .deactivate => switch.deactivate now
  | .select device => switch.select device now
  | .clearSelection => switch.clearSelection now
  | .hostResumed => switch.hostResumed now
  | .pump => switch.pumped now
  | .poll => switch.poll now
  | .next => (switch.next? now).getD switch
  | .setDeviceListener listener => switch.setDeviceListener listener
  | .setHeadsetListener listener => switch.setHeadsetListener listener
  | .setFocusListener listener => switch.setFocusListener listener
  | .setLogging on => switch.setLogging on

def move (switch : Switch σ) : Move σ → Switch σ
  | .operation operation now => switch.perform operation now
  | .callback callback => switch.receive callback
  | .platform change => { switch with
      host := { switch.host with platform := change switch.host.platform } }
  | .focus change => { switch with host := switch.host.changeFocus change }

def run (switch : Switch σ) (moves : List (Move σ)) : Switch σ := moves.foldl move switch

def handsetMove (switch : Switch Handset) : HandsetMove → Switch Handset
  | .operation operation now => switch.perform operation now
  | .handset action => switch.react action

def handsetRun (switch : Switch Handset) (moves : List HandsetMove) : Switch Handset :=
  moves.foldl handsetMove switch

def meet (switch : Switch Handset) : Incident → Switch Handset
  | .move move => switch.handsetMove move
  | .callback callback => switch.receive callback

def meetAll (switch : Switch Handset) (incidents : List Incident) : Switch Handset :=
  incidents.foldl meet switch

def act (switch : Switch σ) (operation : Operation) (now : Nat) : Switch σ :=
  match operation with
  | .start listener => switch.start listener now
  | .stop => switch.stop
  | .activate => (switch.engage now).2
  | .deactivate => switch.disengage
  | .select device => switch.choose device now
  | .clearSelection => switch.unchoose now
  | .hostResumed => switch.resume
  | .pump | .poll | .next => switch
  | .setDeviceListener listener => switch.setDeviceListener listener
  | .setHeadsetListener listener => switch.setHeadsetListener listener
  | .setFocusListener listener => switch.setFocusListener listener
  | .setLogging on => switch.setLogging on

def beat (switch : Switch σ) : Beat → Switch σ
  | .callback now => (switch.next? now).getD switch
  | .poll now => switch.poll now
  | .act operation now => switch.act operation now

def pumpBeats (switch : Switch σ) (now : Nat) : List Beat :=
  List.replicate (switch.drain now).1 (.callback now) ++ [.poll now]

/-- The beats of an operation. -/
def beats (switch : Switch σ) (operation : Operation) (now : Nat) : List Beat :=
  match operation with
  | .activate | .deactivate | .select _ | .clearSelection =>
    switch.pumpBeats now ++ [.act operation now]
  | .hostResumed =>
    if switch.resumable then .act .hostResumed now :: switch.resume.pumpBeats now else []
  | .pump => switch.pumpBeats now
  | .poll => [.poll now]
  | .next => [.callback now]
  | _ => [.act operation now]

theorem drainWithin_eq_foldl (count : Nat) (switch : Switch σ) (now : Nat) :
    (switch.drainWithin count now).2 =
      (List.replicate (switch.drainWithin count now).1 (Beat.callback now)).foldl beat switch := by
  induction count generalizing switch with
  | zero => rfl
  | succ count ih =>
    rw [drainWithin]
    cases hNext : switch.next? now with
    | none => rfl
    | some next =>
      simp only [List.replicate_succ, List.foldl_cons, beat, hNext, Option.getD_some]
      exact ih next

theorem pumped_eq_foldl (switch : Switch σ) (now : Nat) :
    switch.pumped now = (switch.pumpBeats now).foldl beat switch := by
  rw [pumpBeats, List.foldl_append]
  exact congrArg (fun drained => drained.poll now) (drainWithin_eq_foldl _ switch now)

/-- An operation is the sequence of its beats. -/
theorem perform_eq_foldl (switch : Switch σ) (operation : Operation) (now : Nat) :
    switch.perform operation now = (switch.beats operation now).foldl beat switch := by
  cases operation with
  | activate | deactivate | select | clearSelection =>
    simp only [beats, List.foldl_append, ← pumped_eq_foldl]
    rfl
  | hostResumed =>
    rw [perform, hostResumed, beats]
    split
    · rw [List.foldl_cons, pumped_eq_foldl]
      rfl
    · rfl
  | pump => exact pumped_eq_foldl switch now
  | _ => rfl

theorem perform_next_nil {switch : Switch σ} (h : switch.host.queue = []) (now : Nat) :
    switch.perform .next now = switch := by
  rw [perform, next?, h]
  rfl

theorem perform_next_cons {switch : Switch σ} {callback : Callback} {rest : List Callback}
    (h : switch.host.queue = callback :: rest) (now : Nat) :
    switch.perform .next now = (switch.requeue rest).handle callback now := by
  rw [perform, next?, h]
  rfl

theorem mem_pumpBeats {switch : Switch σ} {beat : Beat} {now : Nat}
    (h : beat ∈ switch.pumpBeats now) : beat = .callback now ∨ beat = .poll now := by
  rcases List.mem_append.mp h with hCallback | hPoll
  · exact .inl (List.eq_of_mem_replicate hCallback)
  · exact .inr (List.mem_singleton.mp hPoll)

theorem mem_beats {switch : Switch σ} {operation : Operation} {now : Nat} {beat : Beat}
    (h : beat ∈ switch.beats operation now) :
    beat = .callback now ∨ beat = .poll now ∨ beat = .act operation now := by
  cases operation with
  | activate | deactivate | select | clearSelection =>
    rcases List.mem_append.mp h with hPumped | hAct
    · exact (mem_pumpBeats hPumped).imp_right .inl
    · exact .inr (.inr (List.mem_singleton.mp hAct))
  | hostResumed =>
    rw [beats] at h
    split at h
    · rcases List.mem_cons.mp h with hAct | hPumped
      · exact .inr (.inr hAct)
      · exact (mem_pumpBeats hPumped).imp_right .inl
    · cases h
  | pump => exact (mem_pumpBeats h).imp_right .inl
  | poll => exact .inr (.inl (List.mem_singleton.mp h))
  | next => exact .inl (List.mem_singleton.mp h)
  | _ => exact .inr (.inr (List.mem_singleton.mp h))

/-- What a callback, a look at the deadline and the part of its own keep, an operation keeps. -/
theorem perform_induction_act {kept : Switch σ → Prop} {operation : Operation} {now : Nat}
    (hCallback : ∀ switch, kept switch → kept (switch.beat (.callback now)))
    (hPoll : ∀ switch, kept switch → kept (switch.poll now))
    (hAct : ∀ switch, kept switch → kept (switch.act operation now))
    {switch : Switch σ} (h : kept switch) : kept (switch.perform operation now) := by
  rw [perform_eq_foldl]
  refine List.foldlRecOn _ _ h fun after hAfter beat hMem => ?_
  rcases mem_beats hMem with rfl | rfl | rfl
  · exact hCallback after hAfter
  · exact hPoll after hAfter
  · exact hAct after hAfter

theorem perform_induction {kept : Switch σ → Prop}
    (hBeat : ∀ switch beat, kept switch → kept (switch.beat beat))
    {switch : Switch σ} (h : kept switch) (operation : Operation) (now : Nat) :
    kept (switch.perform operation now) :=
  perform_induction_act (fun after => hBeat after (.callback now))
    (fun after => hBeat after (.poll now)) (fun after => hBeat after (.act operation now)) h

/-- What every beat, everything that happens to the handset and every callback keep, the switch keeps
throughout. -/
theorem meetAll_induction {kept : Switch Handset → Prop}
    (hBeat : ∀ switch beat, kept switch → kept (switch.beat beat))
    (hReact : ∀ switch action, kept switch → kept (switch.react action))
    (hReceive : ∀ switch callback, kept switch → kept (switch.receive callback))
    {switch : Switch Handset} (h : kept switch) (incidents : List Incident) :
    kept (switch.meetAll incidents) := by
  induction incidents generalizing switch with
  | nil => exact h
  | cons incident incidents ih =>
    refine ih ?_
    cases incident with
    | callback callback => exact hReceive switch callback h
    | move move =>
      cases move with
      | operation operation now => exact perform_induction hBeat h operation now
      | handset action => exact hReact switch action h

section Noting

/-! ## What is noted beside a run

What happened before need not show in the state. A note follows a run beat by beat.
-/

variable {γ : Type} (note : Switch σ → Beat → γ → γ)

def noteBeat (noted : γ × Switch σ) (beat : Beat) : γ × Switch σ :=
  (note noted.2 beat noted.1, noted.2.beat beat)

def noteMove (noted : γ × Switch σ) : Move σ → γ × Switch σ
  | .operation operation now =>
    (noted.2.beats operation now).foldl (noteBeat note) noted
  | other => (noted.1, noted.2.move other)

def noteRun (begin : γ) (switch : Switch σ) (moves : List (Move σ)) : γ :=
  (moves.foldl (noteMove note) (begin, switch)).1

theorem snd_noteBeats (noted : γ × Switch σ) (beats : List Beat) :
    (beats.foldl (noteBeat note) noted).2 = beats.foldl beat noted.2 := by
  induction beats generalizing noted with
  | nil => rfl
  | cons first beats ih => exact ih (noteBeat note noted first)

theorem snd_noteMoves (noted : γ × Switch σ) (moves : List (Move σ)) :
    (moves.foldl (noteMove note) noted).2 = noted.2.run moves := by
  rw [run]
  induction moves generalizing noted with
  | nil => rfl
  | cons first moves ih =>
    rw [List.foldl_cons, List.foldl_cons, ih]
    congr 1
    cases first with
    | operation operation now =>
      rw [noteMove, snd_noteBeats, move, perform_eq_foldl]
    | _ => rfl

/-- What every beat and every arrival keep, holds of a run and what is noted of it. -/
theorem noteRun_induction {kept : γ → Switch σ → Prop}
    (hBeat : ∀ noted switch beat, kept noted switch → kept (note switch beat noted) (switch.beat beat))
    (hArrive : ∀ noted switch arrival, kept noted switch →
      (∀ operation now, arrival ≠ .operation operation now) → kept noted (switch.move arrival))
    {begin : γ} {switch : Switch σ} (h : kept begin switch) (moves : List (Move σ)) :
    kept (switch.noteRun note begin moves) (switch.run moves) := by
  have hBeats : ∀ (beats : List Beat) (noted : γ × Switch σ), kept noted.1 noted.2 →
      kept (beats.foldl (noteBeat note) noted).1 (beats.foldl (noteBeat note) noted).2 := by
    intro beats
    induction beats with
    | nil => exact fun _ hNoted => hNoted
    | cons first beats ih => exact fun noted hNoted => ih _ (hBeat noted.1 noted.2 first hNoted)
  rw [noteRun, ← snd_noteMoves note (begin, switch)]
  generalize hNoted : (begin, switch) = noted
  replace h : kept noted.1 noted.2 := by
    rw [← hNoted]
    exact h
  clear hNoted
  induction moves generalizing noted with
  | nil => exact h
  | cons first moves ih =>
    refine ih (noteMove note noted first) ?_
    cases first with
    | operation operation now => exact hBeats _ noted h
    | callback callback => exact hArrive noted.1 noted.2 (.callback callback) h (by simp)
    | platform change => exact hArrive noted.1 noted.2 (.platform change) h (by simp)
    | focus change => exact hArrive noted.1 noted.2 (.focus change) h (by simp)

end Noting

omit [Platform σ] in
theorem absorb_induction {kept : Switch σ → Prop}
    (hCallback : ∀ switch callback, kept switch → kept (switch.applyCallback callback).2)
    {switch : Switch σ} (h : kept { switch with host := { switch.host with queue := [] } }) :
    kept switch.absorb := by
  rw [absorb]
  revert h
  generalize ({ switch with host := { switch.host with queue := [] } } : Switch σ) = begin
  generalize switch.host.queue = queue
  induction queue generalizing begin with
  | nil => exact id
  | cons callback queue ih => exact fun hBegin => ih _ (hCallback begin callback hBegin)

end Switch

end CallAudio
