import CallAudio.Proofs.Deadlines
import CallAudio.Proofs.DrainCount
import CallAudio.Proofs.Plays

/-! # How a wait comes to an end

While a step waits, callbacks are applied and overdue requests are given up. Which of the two comes
first is open once both can happen, and so is how late a deadline is noticed. A reply is applied for
good. A request that is given up may call forth another one and its reply, but it costs a headset the
chance to be tried again. So a wait runs out of things that can happen, whichever way it goes.
-/

namespace CallAudio

theorem Switch.next?_eq_none_iff {switch : Switch Handset} {now : Nat} :
    switch.next? now = none ↔ switch.host.queue = [] := by
  rw [next?]
  split <;> simp_all

namespace Play

variable {finish : Nat} {before after : Switch Handset × Nat}

/-- What can happen up to `finish` while a step waits, with the clock reading. The clock moves only
while no callback waits. -/
inductive Happens (finish : Nat) : Switch Handset × Nat → Switch Handset × Nat → Prop
  | callback {switch next : Switch Handset} {now : Nat} :
    switch.next? now = some next → Happens finish (switch, now) (next, now)
  /-- The deadline has come, even if callbacks wait. -/
  | overdue {switch : Switch Handset} {now deadline : Nat} :
    deadline? switch = some deadline → deadline ≤ now →
    Happens finish (switch, now) (switch.poll now, now)
  | wake {switch : Switch Handset} {now deadline later : Nat} :
    switch.host.queue = [] → deadline? switch = some deadline → deadline ≤ later → now ≤ later →
    later ≤ finish → Happens finish (switch, now) (switch.poll later, later)

inductive Waits (finish : Nat) : Nat → Switch Handset × Nat → Switch Handset × Nat → Prop
  | done {state : Switch Handset × Nat} : Waits finish 0 state state
  | more {count : Nat} {before after last : Switch Handset × Nat} :
    Happens finish before after → Waits finish count after last →
    Waits finish (count + 1) before last

theorem deadline?_eq_some_iff {switch : Switch Handset} {deadline : Nat} :
    deadline? switch = some deadline ↔
      switch.tracker.listening = true ∧ switch.tracker.deadline? = some deadline := by
  rw [deadline?, Tracker.listening?]
  split <;> simp_all

/-- No callback waits, and no request is pending whose deadline comes up to `finish`. -/
def Over (finish : Nat) (state : Switch Handset × Nat) : Prop :=
  state.1.host.queue = [] ∧ ∀ deadline, deadline? state.1 = some deadline → finish < deadline

theorem happens_at_deadline {switch : Switch Handset} {deadline : Nat}
    (hQueue : switch.host.queue = []) (hDeadline : deadline? switch = some deadline)
    (hEarly : deadline ≤ finish) (now : Nat) :
    Happens finish (switch, now) (switch.poll (max now deadline), max now deadline) := by
  rcases Nat.le_total deadline now with hLate | hLater
  · rw [Nat.max_eq_left hLate]
    exact .overdue hDeadline hLate
  · rw [Nat.max_eq_right hLater]
    exact .wake hQueue hDeadline le_rfl hLater hEarly

/-- A wait that is not over goes on. -/
theorem over_or_happens (finish : Nat) (state : Switch Handset × Nat) :
    Over finish state ∨ ∃ next, Happens finish state next := by
  obtain ⟨switch, now⟩ := state
  cases hQueue : switch.host.queue with
  | cons callback rest => exact .inr ⟨_, .callback (by rw [Switch.next?, hQueue])⟩
  | nil =>
    by_cases hEarly : ∃ deadline, deadline? switch = some deadline ∧ deadline ≤ finish
    · obtain ⟨deadline, hDeadline, hLe⟩ := hEarly
      exact .inr ⟨_, happens_at_deadline hQueue hDeadline hLe now⟩
    · exact .inl ⟨hQueue, fun deadline hDeadline =>
        Nat.lt_of_not_le fun hLe => hEarly ⟨deadline, hDeadline, hLe⟩⟩

theorem happens_of_happening? (h : happening? finish before = some after) :
    Happens finish before after := by
  obtain ⟨switch, now⟩ := before
  rw [happening?] at h
  cases hNext : switch.next? now with
  | some next =>
    simp only [hNext, Option.some_inj] at h
    exact h ▸ .callback hNext
  | none =>
    cases hDeadline : deadline? switch with
    | none => simp [hNext, hDeadline] at h
    | some deadline =>
      simp only [hNext, hDeadline, Option.ite_none_right_eq_some, Option.some_inj] at h
      obtain ⟨hLe, rfl⟩ := h
      exact happens_at_deadline (Switch.next?_eq_none_iff.mp hNext) hDeadline hLe now

theorem over_of_happening? (h : happening? finish before = none) : Over finish before := by
  obtain ⟨switch, now⟩ := before
  rw [happening?] at h
  cases hNext : switch.next? now with
  | some next => simp [hNext] at h
  | none =>
    refine ⟨Switch.next?_eq_none_iff.mp hNext, fun deadline hDeadline => ?_⟩
    simp only at hDeadline
    simpa [hNext, hDeadline] using h

theorem waits_await (count finish : Nat) (state : Switch Handset × Nat) :
    ∃ taken, Waits finish taken state (await count finish state) ∧
      (taken = count ∨ Over finish (await count finish state)) := by
  induction count generalizing state with
  | zero => exact ⟨0, .done, .inl rfl⟩
  | succ count ih =>
    rw [await]
    cases hHappening : happening? finish state with
    | none => exact ⟨0, .done, .inr (over_of_happening? hHappening)⟩
    | some next =>
      obtain ⟨taken, hWaits, hEnd⟩ := ih next
      exact ⟨taken + 1, .more (happens_of_happening? hHappening) hWaits,
        hEnd.imp_left (congrArg (· + 1))⟩

end Play

namespace Switch

variable {switch yielded : Switch Handset} {order : PreferredOrder} {headset : Headset} {now : Nat}

structure Calm (order : PreferredOrder) (switch : Switch Handset) : Prop
    extends Consistent order switch where
  owes : switch.Owes [] switch.host.queue

/-- An upper bound of what can still happen: the replies that wait, and for each headset that may be
tried an expired request and one reply. -/
def ahead (switch : Switch Handset) : Nat := switch.host.queue.length + 2 * switch.unfailed.length

theorem Consistent.calm (h : Consistent order switch) (hQueue : switch.host.queue = []) :
    Calm order switch :=
  ⟨h, ⟨rfl, by simp [hQueue]⟩, fun hSome => (hSome hQueue).elim⟩

theorem Calm.next (h : Calm order switch) {next : Switch Handset}
    (hNext : switch.next? now = some next) : Calm order next ∧ next.ahead < switch.ahead := by
  rw [next?] at hNext
  cases hQueue : switch.host.queue with
  | nil => simp [hQueue] at hNext
  | cons callback rest =>
    simp only [hQueue, Option.some_inj] at hNext
    obtain rfl : (switch.requeue rest).handle callback now = next := hNext
    have hTaken : Consistent order (switch.requeue rest) := h.toConsistent.requeue rest
    have hOwes := h.owes
    rw [hQueue] at hOwes
    obtain ⟨hGrants, hFresh⟩ := hOwes.fresh (List.cons_ne_nil _ _)
    have hReply := hOwes.awaits.2 callback List.mem_cons_self
    have hOwed := hOwes.takeReply h.toConsistent now
    have hRest : ((switch.requeue rest).handle callback now).host.queue = rest := hOwed.awaits.1
    -- Nothing but the link is new after a reply, so no headset lost its chance.
    have hSame : ((switch.requeue rest).handle callback now).unfailed = switch.unfailed := by
      have hTracker := (hTaken.concurs_reply hGrants hFresh hReply now).tracker
      rw [unfailed, hTracker]
      rfl
    refine ⟨⟨hTaken.handle callback now, hRest.symm ▸ hOwed⟩, ?_⟩
    rw [ahead, ahead, hRest, hSame, hQueue, List.length_cons]
    omega

theorem Expires.fresh_poll (h : Expires now switch headset yielded)
    (hGrants : switch.host.terms.2 = false) : (switch.poll now).Fresh := by
  rw [h.poll]
  exact h.vacant.toPoised.fresh_refresh (by rw [h.issued.terms, hGrants]) now

theorem Expires.owes_poll (h : Expires now switch headset yielded)
    (hOwes : switch.Owes [] switch.host.queue) :
    (switch.poll now).Owes [] (switch.poll now).host.queue := by
  have hSteps := (reroutes_poll switch now).steps
  cases hTerms : switch.host.terms.2 with
  | true =>
    -- While requests are refused nobody replies, so nothing was waiting and nothing comes in.
    have hNone : switch.host.queue = [] := by
      by_contra hSome
      cases hTerms.symm.trans (hOwes.fresh hSome).1
    have hQueue : (switch.poll now).host.queue = [] := (hSteps.queue_refused hTerms).trans hNone
    rw [hQueue]
    exact ⟨⟨hQueue, by simp⟩, fun hSome => (hSome rfl).elim⟩
  | false =>
    refine ⟨⟨rfl, ?_⟩, fun _ => ⟨?_, h.fresh_poll hTerms⟩⟩
    · rcases answered_poll switch now with hSame | ⟨_, reply, hQueue, hReply⟩
      · rw [hSame]
        exact hOwes.awaits.2
      · rw [hQueue]
        exact List.forall_mem_append.mpr
          ⟨hOwes.awaits.2, fun other hMem => List.mem_singleton.mp hMem ▸ hReply⟩
    · rw [hSteps.terms, hTerms]

theorem Expires.unfailed_poll_lt (h : Expires now switch headset yielded)
    (hUnmarked : headset.address ∉ switch.tracker.failed) :
    (switch.poll now).unfailed.length < switch.unfailed.length := by
  obtain ⟨_, hHeadsets, hKept⟩ := (reroutes_poll switch now).steps.headsets
  have hMarked : headset.address ∈ (switch.poll now).tracker.failed := by
    rw [h.poll]
    exact (reroutes_refreshSince yielded _ now).steps.headsets.2.2 _ h.marked
  exact unfailed_lt_of_marked (mem_unfailed.mpr ⟨h.connected, hUnmarked⟩) hHeadsets hKept hMarked

theorem length_queue_poll (switch : Switch Handset) (now : Nat) :
    (switch.poll now).host.queue.length ≤ switch.host.queue.length + 1 := by
  rcases answered_poll switch now with hSame | ⟨_, reply, hQueue, _⟩
  · rw [hSame]
    exact Nat.le_succ _
  · rw [hQueue, List.length_append, List.length_singleton]

/-- A request that is given up costs its headset, and at most one reply comes in for it. -/
theorem Calm.expire (h : Calm order switch) {deadline : Nat}
    (hDeadline : Play.deadline? switch = some deadline) (hLate : deadline ≤ now) :
    Calm order (switch.poll now) ∧ (switch.poll now).ahead < switch.ahead := by
  obtain ⟨_, hPending⟩ := Play.deadline?_eq_some_iff.mp hDeadline
  rw [Tracker.deadline?] at hPending
  split at hPending
  case h_2 => cases hPending
  case h_1 address since hLink =>
    cases hPending
    obtain ⟨headset, yielded, rfl, hExpires⟩ := h.toConsistent.expires hLink hLate
    obtain ⟨_, asked, hAddress, hRouted⟩ := h.activating hLink
    have hUnmarked : headset.address ∉ switch.tracker.failed :=
      hAddress ▸ (h.routed_known hRouted).2.2.2
    have hFewer := hExpires.unfailed_poll_lt hUnmarked
    have hLonger := switch.length_queue_poll now
    refine ⟨⟨h.toConsistent.poll now, hExpires.owes_poll h.owes⟩, ?_⟩
    rw [ahead, ahead]
    omega

theorem poll_of_early (h : ∀ deadline, Play.deadline? switch = some deadline → now < deadline) :
    switch.poll now = switch := by
  cases hListening : switch.tracker.listening with
  | false =>
    rw [Switch.poll, hListening]
    rfl
  | true =>
    refine poll_of_deadline (Option.all_eq_true _ _ |>.mpr fun deadline hDeadline => ?_)
    exact decide_eq_true (h deadline (Play.deadline?_eq_some_iff.mpr ⟨hListening, hDeadline⟩))

theorem Calm.poll (h : Calm order switch) (now : Nat) : Calm order (switch.poll now) := by
  by_cases hLate : ∃ deadline, Play.deadline? switch = some deadline ∧ deadline ≤ now
  · obtain ⟨deadline, hDeadline, hPast⟩ := hLate
    exact (h.expire hDeadline hPast).1
  · have hStill : switch.poll now = switch := poll_of_early fun deadline hDeadline =>
      Nat.lt_of_not_le fun hPast => hLate ⟨deadline, hDeadline, hPast⟩
    rwa [hStill]

theorem Consistent.drain (h : Consistent order switch) (now : Nat) :
    Consistent order (switch.drain now).2 := by
  rw [Switch.drain, drainWithin_eq_foldl]
  exact List.foldlRecOn _ Switch.beat h fun after hAfter beat _ => hAfter.beat beat

theorem Consistent.calm_pumped (h : Consistent order switch) (now : Nat) :
    Calm order (switch.pumped now) :=
  ((h.drain now).calm (h.queue_drain now)).poll now

end Switch

namespace Play

open Switch

variable {finish count : Nat} {before after last : Switch Handset × Nat} {order : PreferredOrder}

theorem Happens.calm (h : Happens finish before after) (hCalm : Calm order before.1) :
    Calm order after.1 ∧ after.1.ahead < before.1.ahead := by
  cases h with
  | callback hNext => exact hCalm.next hNext
  | overdue hDeadline hLate => exact hCalm.expire hDeadline hLate
  | wake _ hDeadline hLate => exact hCalm.expire hDeadline hLate

theorem Waits.calm (h : Waits finish count before last) (hCalm : Calm order before.1) :
    Calm order last.1 ∧ count + last.1.ahead ≤ before.1.ahead := by
  induction h with
  | done => exact ⟨hCalm, (Nat.zero_add _).le⟩
  | more hHappens _ ih =>
    obtain ⟨hNext, hFewer⟩ := hHappens.calm hCalm
    obtain ⟨hLast, hCount⟩ := ih hNext
    exact ⟨hLast, by omega⟩

theorem over_await (hCalm : Calm order before.1) (hCount : before.1.ahead ≤ count) :
    Over finish (await count finish before) := by
  obtain ⟨taken, hWaits, rfl | hOver⟩ := waits_await count finish before
  · -- Nothing is ahead any more once so many things have happened.
    obtain ⟨hLast, hTaken⟩ := hWaits.calm hCalm
    rcases over_or_happens finish (await taken finish before) with hOver | ⟨next, hHappens⟩
    · exact hOver
    · have hFewer := (hHappens.calm hLast).2
      omega
  · exact hOver

theorem calm_begin (scenario : Scenario) (config : SwitchConfig) :
    Calm config.order (begin scenario config).switch := by
  have hConsistent := consistent_create config scenario.handset
  refine Consistent.calm (hConsistent.congr rfl rfl rfl rfl rfl) ?_
  exact Host.queue_writeAll (Host.ofPlatform scenario.handset config.logging) _

theorem calm_step {play : Play} (h : Calm order play.switch) (step : Step) :
    Calm order (play.step step).switch := by
  have hActed : Consistent order (act play.switch play.now step).2 :=
    keeps_act (fun _ beat hKept => hKept.beat beat)
      (fun _ _ _ hKept => hKept.congr rfl rfl rfl rfl rfl) h.toConsistent play.now step
  exact hActed.calm_pumped _

theorem calm_steps (scenario : Scenario) (config : SwitchConfig) (done : List Step) :
    Calm config.order (done.foldl Play.step (begin scenario config)).switch :=
  List.foldlRecOn (motive := fun play => Calm config.order play.switch) done Play.step
    (calm_begin scenario config) fun _ hPlay step _ => calm_step hPlay step

/-- Whatever was done before, let a step wait for any time, and let what can happen happen in any
order. Then no more things happen than twice the callbacks that wait and the headsets that may be
tried, and as long as the wait is not over there is a next one. So a wait comes to an end, with no
callback waiting and no request pending whose deadline comes up to its end, and what the step does
is one way for it to go. -/
theorem wait_settles (scenario : Scenario) (config : SwitchConfig) (done : List Step) (time : Nat) :
    let before := done.foldl Play.step (begin scenario config)
    let most := 2 * before.switch.host.queue.length + 2 * before.switch.unfailed.length
    let finish := before.now + time
    (∀ count last, Waits finish count (before.switch, before.now) last →
      count ≤ most ∧ (Over finish last ∨ ∃ next, Happens finish last next)) ∧
    ∃ count last, Waits finish count (before.switch, before.now) last ∧ Over finish last ∧
      act before.switch before.now (.wait time) = (none, last.1) := by
  intro before most finish
  have hCalm : Calm config.order before.switch := calm_steps scenario config done
  have hMost : before.switch.ahead ≤ most := by
    simp only [ahead, most]
    omega
  refine ⟨fun count last hWaits => ⟨?_, over_or_happens finish last⟩, ?_⟩
  · have hCount := (hWaits.calm hCalm).2
    simp only at hCount
    omega
  · -- The count that the step allows is no smaller, since headsets that failed count as well.
    have hEnough : before.switch.ahead ≤
        2 * (before.switch.host.queue.length + before.switch.tracker.headsets.length) := by
      have hFewer : before.switch.unfailed.length ≤ before.switch.tracker.headsets.length :=
        List.length_filter_le _ _
      rw [ahead]
      omega
    obtain ⟨taken, hWaits, _⟩ := waits_await _ finish (before.switch, before.now)
    exact ⟨taken, _, hWaits, over_await hCalm hEnough, rfl⟩

/-- A headset that never answers is given up during the wait, and the call goes to the earpiece. -/
theorem wait_settles_given_up :
    let scenario : Scenario := ⟨{ Handset.fresh with confirmsLinks := false }, []⟩
    let config : SwitchConfig := ⟨.usual, 20, true, false⟩
    let before := [Step.connect ⟨"Buds", "AA"⟩, .start, .activate].foldl Play.step
      (begin scenario config)
    let waited := act before.switch before.now (.wait 100)
    (∃ count last, Waits (before.now + 100) count (before.switch, before.now) last ∧
      Over (before.now + 100) last ∧ waited = (none, last.1)) ∧
    deadline? before.switch = some 20 ∧ deadline? waited.2 = none ∧
    waited.2.selector.selected = some .earpiece ∧
    .headset ⟨.activationError, .bluetoothHeadset ⟨"Buds", "AA"⟩⟩ ∈ told before.switch waited.2 ∧
    issued before.switch waited.2 = [.command .disableLink] := by
  intro scenario config before waited
  have hSettles := wait_settles scenario config [.connect ⟨"Buds", "AA"⟩, .start, .activate] 100
  exact ⟨hSettles.2, by decide⟩

/-- Without any patience, headset after headset is given up during a wait of no time. -/
example :
    let config : SwitchConfig := ⟨.usual, 0, true, false⟩
    let before := [Step.connect ⟨"A", "AA"⟩, .connect ⟨"B", "BB"⟩, .connect ⟨"C", "CC"⟩,
      .connect ⟨"D", "DD"⟩, .start, .activate].foldl Play.step
        (begin ⟨{ Handset.fresh with confirmsLinks := false }, []⟩ config)
    issued before.switch (act before.switch before.now (.wait 0)).2 =
      [.disableLink, .enableLink "BB", .disableLink, .enableLink "AA", .disableLink].map
        Output.command := by
  decide

end Play

end CallAudio
