import CallAudio.Proofs.Agreement
import CallAudio.Proofs.Layers

/-! # How many callbacks a drain applies

On the simulated handset each callback that waits when a drain begins may call forth a reply, and
the selection is fresh from then on. A reply that finds it fresh routes nothing, so it calls forth no
other. A drain applies every callback once and each of them brings in one more at most.
-/

namespace CallAudio

/-- A callback says that a link is open that one of the commands asked for. -/
def Callback.Answers (callback : Callback) (commands : List Command) : Prop :=
  ∃ address, callback.report = .bluetooth (.audioConnected address) ∧ .enableLink address ∈ commands

theorem Callback.Answers.mono {callback : Callback} {commands more : List Command}
    (h : callback.Answers commands) (hSubset : commands ⊆ more) : callback.Answers more := by
  obtain ⟨address, hReport, hMem⟩ := h
  exact ⟨address, hReport, hSubset hMem⟩

section Replies

variable {σ : Type} [Platform σ]

theorem Host.enableLink_replies (host : Host σ) (address : String) :
    let after := (host.enableLink address).2
    after.commands = host.commands ++ [.enableLink address] ∧
      ∃ added, after.queue = host.queue ++ added ∧
        ∀ callback ∈ added, callback.Answers [.enableLink address] := by
  have hNothing : ∀ callback ∈ ([] : List Callback), callback.Answers [.enableLink address] := by
    simp
  intro after
  simp only [after, enableLink]
  cases Platform.linkAnswer host.platform address with
  | confirmed =>
    simp only [reportBluetooth]
    split
    · exact ⟨rfl, _, rfl, by simp [Callback.Answers]⟩
    · exact ⟨rfl, [], (List.append_nil _).symm, hNothing⟩
  | _ => exact ⟨rfl, [], (List.append_nil _).symm, hNothing⟩

/-- All that routing brings in are replies to its own requests. -/
theorem LinkSteps.replies {before after : Tracker × Host σ} (h : LinkSteps before after) :
    ∃ issued added, after.2.commands = before.2.commands ++ issued ∧
      after.2.queue = before.2.queue ++ added ∧ ∀ callback ∈ added, callback.Answers issued := by
  let kept (middle : Tracker × Host σ) : Prop :=
    ∃ issued added, middle.2.commands = before.2.commands ++ issued ∧
      middle.2.queue = before.2.queue ++ added ∧ ∀ callback ∈ added, callback.Answers issued
  have hSilent : ∀ {middle : Tracker × Host σ} (tracker : Tracker) (host : Host σ)
      (issued : List Command), kept middle → host.commands = middle.2.commands ++ issued →
      host.queue = middle.2.queue → kept (tracker, host) := by
    rintro middle tracker host issued ⟨earlier, added, hCommands, hQueue, hReplies⟩ hMore hSame
    refine ⟨earlier ++ issued, added, ?_, hSame.trans hQueue, fun callback hMem =>
      (hReplies callback hMem).mono (List.subset_append_left ..)⟩
    rw [hMore, hCommands, List.append_assoc]
  have hAsked : ∀ {middle : Tracker × Host σ} (tracker : Tracker) (address : String),
      kept middle → kept (tracker, (middle.2.enableLink address).2) := by
    rintro middle tracker address ⟨earlier, added, hCommands, hQueue, hReplies⟩
    obtain ⟨hMore, later, hLonger, hAnswers⟩ := middle.2.enableLink_replies address
    refine ⟨earlier ++ [.enableLink address], added ++ later, ?_, ?_, fun callback hMem => ?_⟩
    · rw [hMore, hCommands, List.append_assoc]
    · rw [hLonger, hQueue, List.append_assoc]
    · rcases List.mem_append.mp hMem with hOld | hNew
      · exact (hReplies callback hOld).mono (List.subset_append_left ..)
      · exact (hAnswers callback hNew).mono (List.subset_append_right ..)
  have hStep : ∀ middle next, LinkStep middle next → kept middle → kept next := by
    intro middle next hNext hKept
    cases hNext with
    | write tracker host line =>
      exact hSilent _ _ [] hKept (by simp) (Host.queue_write host line)
    | notify => exact hSilent _ _ [] hKept (List.append_nil _).symm rfl
    | speaker | close | expire => exact hSilent _ _ _ hKept rfl rfl
    | «open» tracker host address => exact hAsked _ address hKept
    | refuse tracker host address => exact hAsked _ address hKept
  exact h.keeps hStep ⟨[], [], (List.append_nil _).symm, (List.append_nil _).symm, by simp⟩

end Replies

namespace Switch

variable {switch : Switch Handset} {order : PreferredOrder} {now : Nat}
  {old replies : List Callback}

theorem Consistent.queue_reply (h : Consistent order switch)
    (hGrants : switch.host.terms.2 = false) (hFresh : switch.Fresh) {callback : Callback}
    (hReply : callback.IsReply) (now : Nat) :
    (switch.handle callback now).host.queue = switch.host.queue := by
  have hQueue := queue_applyCallback switch callback
  cases hChanged : (switch.applyCallback callback).1 with
  | false => rw [handle_unchanged hChanged, hQueue]
  | true =>
    obtain ⟨_, address, host, hEq⟩ := applyCallback_reply hReply hChanged
    have hHeard := concurs_applyReply hGrants hReply hChanged
    have hSelector : ((switch.applyCallback callback).2.recompute []).selector = switch.selector :=
      (hHeard.fresh hFresh).trans hHeard.selector
    have hRoute : ((switch.applyCallback callback).2.recompute []).route = switch.route := by
      rw [hEq]
      rfl
    -- The selected device is routed already, or nothing is to be routed.
    have hIdle : ((switch.applyCallback callback).2.recompute []).applyRoute now =
        (switch.applyCallback callback).2.recompute [] := by
      refine applyRoute_idle ?_ now
      rw [hSelector, hRoute]
      cases hRouting : switch.route.isRouting with
      | false => exact .inl rfl
      | true => exact .inr (h.heard hRouting)
    rw [handle_changed hChanged, refresh, refreshSince, queue_announce, hIdle, queue_recompute,
      hQueue]

/-- The `old` callbacks wait and `replies` behind them, each of which will find a fresh selection. -/
structure Owes (switch : Switch Handset) (old replies : List Callback) : Prop where
  awaits : switch.Awaits old replies
  fresh : replies ≠ [] → switch.host.terms.2 = false ∧ switch.Fresh

theorem Owes.takeOld {callback : Callback} (h : switch.Owes (callback :: old) replies)
    (hConsistent : Consistent order switch) (now : Nat) :
    let next := (switch.requeue (old ++ replies)).handle callback now
    next.Owes old replies ∨ ∃ reply, next.Owes old (replies ++ [reply]) := by
  intro next
  have hTaken : Consistent order (switch.requeue (old ++ replies)) := hConsistent.requeue _
  rcases hTaken.fresh_of_reply callback now with hQueue | ⟨hGrants, hFresh, reply, hQueue, hReply⟩
  · refine .inl ⟨⟨hQueue, h.awaits.2⟩, fun hSome => ?_⟩
    obtain ⟨hGrants, hFresh⟩ := h.fresh hSome
    exact ⟨(congrArg Prod.snd (terms_handle _ callback now)).trans hGrants,
      hTaken.fresh_still hGrants hFresh callback now⟩
  · exact .inr ⟨reply, .reply hQueue h.awaits.2 hReply, fun _ => ⟨hGrants, hFresh⟩⟩

theorem Owes.takeReply {callback : Callback} (h : switch.Owes [] (callback :: replies))
    (hConsistent : Consistent order switch) (now : Nat) :
    ((switch.requeue replies).handle callback now).Owes [] replies := by
  have hTaken : Consistent order (switch.requeue replies) := hConsistent.requeue replies
  obtain ⟨hReply, hRest⟩ := List.forall_mem_cons.mp h.awaits.2
  obtain ⟨hGrants, hFresh⟩ := h.fresh (List.cons_ne_nil _ _)
  refine ⟨⟨hTaken.queue_reply hGrants hFresh hReply now, hRest⟩, fun _ => ⟨?_, ?_⟩⟩
  · exact (congrArg Prod.snd (terms_handle _ callback now)).trans hGrants
  · exact hTaken.fresh_still hGrants hFresh callback now

/-- An old callback leaves at most one more reply behind, and a reply leaves none. -/
theorem Owes.take (h : switch.Owes old replies) (hConsistent : Consistent order switch)
    {callback : Callback} {rest : List Callback} (hQueue : switch.host.queue = callback :: rest)
    (now : Nat) :
    ∃ old' replies', ((switch.requeue rest).handle callback now).Owes old' replies' ∧
      old.length + replies.length ≤ old'.length + replies'.length + 1 ∧
      2 * old'.length + replies'.length + 1 ≤ 2 * old.length + replies.length := by
  have hWaiting := h.awaits.1.symm.trans hQueue
  cases old with
  | cons first old =>
    obtain ⟨rfl, rfl⟩ : first = callback ∧ old ++ replies = rest := by simpa using hWaiting
    rcases h.takeOld hConsistent now with hSilent | ⟨reply, hReplied⟩
    · refine ⟨old, replies, hSilent, ?_, ?_⟩ <;> simp only [List.length_cons] <;> omega
    · refine ⟨old, replies ++ [reply], hReplied, ?_, ?_⟩ <;>
        simp only [List.length_cons, List.length_append, List.length_nil] <;> omega
  | nil =>
    obtain rfl : replies = callback :: rest := hWaiting
    refine ⟨[], rest, h.takeReply hConsistent now, ?_, ?_⟩ <;> simp only [List.length_cons] <;> omega

theorem Owes.drainWithin (h : switch.Owes old replies) (hConsistent : Consistent order switch)
    {count : Nat} (hCount : 2 * old.length + replies.length ≤ count) (now : Nat) :
    let drained := switch.drainWithin count now
    drained.2.host.queue = [] ∧ old.length + replies.length ≤ drained.1 ∧
      drained.1 ≤ 2 * old.length + replies.length := by
  induction count generalizing switch old replies with
  | zero =>
    obtain rfl : old = [] := List.eq_nil_of_length_eq_zero (by omega)
    obtain rfl : replies = [] := List.eq_nil_of_length_eq_zero (by omega)
    exact ⟨h.awaits.1, le_rfl, le_rfl⟩
  | succ count ih =>
    cases hQueue : switch.host.queue with
    | nil =>
      obtain ⟨rfl, rfl⟩ := List.append_eq_nil_iff.mp (h.awaits.1.symm.trans hQueue)
      rw [drainWithin_nil hQueue]
      exact ⟨hQueue, le_rfl, le_rfl⟩
    | cons callback rest =>
      have hTaken : Consistent order (switch.requeue rest) := hConsistent.requeue rest
      -- One callback less waits, or an old one gave way to a reply: both bounds fall with the count.
      obtain ⟨_, _, hOwes, hLeast, hMost⟩ := h.take hConsistent hQueue now
      obtain ⟨hEmpty, hLower, hUpper⟩ := ih hOwes (hTaken.handle callback now) (by omega)
      rw [drainWithin_cons hQueue]
      exact ⟨hEmpty, by omega, by omega⟩

/-- If nothing waits, a look at the deadline brings in at most the reply to a request of its own. -/
theorem poll_replies (hQueue : switch.host.queue = []) (now : Nat) :
    let after := switch.poll now
    after.host.queue = [] ∨ ∃ issued reply, after.host.commands = switch.host.commands ++ issued ∧
      after.host.queue = [reply] ∧ reply.Answers issued := by
  intro after
  obtain ⟨issued, added, hCommands, hAdded, hAnswers⟩ := (reroutes_poll switch now).steps.replies
  obtain hSame | ⟨_, reply, hOne, _⟩ := answered_poll switch now
  · exact .inl (hSame.trans hQueue)
  · rw [hQueue] at hOne hAdded
    obtain rfl : added = [reply] := hAdded.symm.trans hOne
    exact .inr ⟨issued, reply, hCommands, hOne, hAnswers reply (List.mem_singleton.mpr rfl)⟩

/-- Let any callbacks wait, whatever they report and of whichever session they are. Then a drain comes
to an end with none waiting, and no bound of twice their number or more cuts it short. A pump applies
each of them and no more than twice as many, and all that it can leave behind is the reply to a
request that its look at the deadline made. -/
theorem pump_bounded (config : SwitchConfig) (handset : Handset) (incidents : List Incident)
    (callbacks : List Callback) (now : Nat) :
    let switch := ((create config handset).meetAll incidents).requeue callbacks
    let drained := switch.drain now
    let (applied, after) := switch.pump now
    (∀ count, 2 * callbacks.length ≤ count → switch.drainWithin count now = drained) ∧
      drained.2.host.queue = [] ∧ callbacks.length ≤ applied ∧ applied ≤ 2 * callbacks.length ∧
      (after.host.queue = [] ∨ ∃ issued reply,
        after.host.commands = drained.2.host.commands ++ issued ∧
          after.host.queue = [reply] ∧ reply.Answers issued) := by
  intro switch drained
  have h : Consistent config.order switch :=
    (consistent_meetAll config handset incidents).requeue callbacks
  have hOwes : switch.Owes callbacks [] :=
    ⟨⟨(List.append_nil _).symm, by simp⟩, fun hSome => (hSome rfl).elim⟩
  have hLength : switch.host.queue.length = callbacks.length := rfl
  have hEnough : 2 * callbacks.length ≤ 3 * switch.host.queue.length := by omega
  have hDone := (hOwes.drainWithin h le_rfl now).1
  obtain ⟨hQueue, hLeast, hMost⟩ := hOwes.drainWithin h hEnough now
  refine ⟨fun count hCount => ?_, hQueue, hLeast, hMost, poll_replies hQueue now⟩
  rw [drainWithin_more hDone hCount]
  exact (drainWithin_more hDone hEnough).symm

end Switch

end CallAudio
