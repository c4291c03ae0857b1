import CallAudio.Route
import Mathlib.Logic.Relation

/-! # What routing does to the audio link

Whatever routing does to the tracker and to its host is a sequence of few kinds of steps. A request
goes out only for a known headset and while no link is open; a refused request and one that timed
out leave a failure mark and no link.
-/

namespace CallAudio

namespace Host

variable {σ : Type} (host : Host σ) (line : LogLine)

@[simp] theorem platform_write : (host.write line).platform = host.platform := by
  unfold write; split <;> rfl

@[simp] theorem bluetoothReceiver_write :
    (host.write line).bluetoothReceiver = host.bluetoothReceiver := by
  unfold write; split <;> rfl

@[simp] theorem wiredReceiver_write : (host.write line).wiredReceiver = host.wiredReceiver := by
  unfold write; split <;> rfl

@[simp] theorem queue_write : (host.write line).queue = host.queue := by
  unfold write; split <;> rfl

@[simp] theorem commands_write : (host.write line).commands = host.commands := by
  unfold write; split <;> rfl

end Host

variable {σ : Type} [Platform σ]

/-- One step of routing on a tracker and its host. -/
inductive LinkStep : Tracker × Host σ → Tracker × Host σ → Prop
  | write (tracker host) (line : LogLine) : LinkStep (tracker, host) (tracker, host.write line)
  | notify (tracker host) (notice : Notice) :
    LinkStep (tracker, host) (tracker, host.notify notice)
  | speaker (tracker host) (on : Bool) :
    LinkStep (tracker, host) (tracker, host.issue (.setSpeakerphone on))
  | close (tracker host) : tracker.link ≠ .idle →
    LinkStep (tracker, host) ({ tracker with link := .idle }, host.issue .disableLink)
  | open (tracker host) (address : String) (now : Nat) : tracker.link = .idle →
    (tracker.find? address).isSome → (host.enableLink address).1 = .ok () →
    LinkStep (tracker, host)
      ({ tracker with link := .activating address now }, (host.enableLink address).2)
  | refuse (tracker host) (address reason : String) : tracker.link = .idle →
    (tracker.find? address).isSome → (host.enableLink address).1 = .error reason →
    LinkStep (tracker, host) (tracker.markFailed address, (host.enableLink address).2)
  | expire (tracker host) (address : String) (since : Nat) :
    tracker.link = .activating address since →
    LinkStep (tracker, host) (tracker.markFailed address, host.issue .disableLink)

abbrev LinkSteps : Tracker × Host σ → Tracker × Host σ → Prop := Relation.ReflTransGen LinkStep

/-- What every step of routing keeps, a sequence of steps keeps. -/
theorem LinkSteps.keeps {kept : Tracker × Host σ → Prop} {before after : Tracker × Host σ}
    (hStep : ∀ before after, LinkStep before after → kept before → kept after)
    (h : LinkSteps before after) (hBefore : kept before) : kept after := by
  induction h with
  | refl => exact hBefore
  | tail _ hLast ih => exact hStep _ _ hLast ih

theorem LinkSteps.writeAll (tracker : Tracker) (host : Host σ) (lines : List LogLine) :
    LinkSteps (tracker, host) (tracker, host.writeAll lines) := by
  induction lines generalizing host with
  | nil => exact .refl
  | cons line lines ih => exact .head (.write tracker host line) (ih (host.write line))

namespace Tracker

theorem closeLink_steps (tracker : Tracker) (host : Host σ) :
    LinkSteps (tracker, host) (tracker.closeLink host) := by
  rw [closeLink]
  split
  · exact .refl
  · rename_i hOpen
    exact .head (.write _ _ _) (.single (.close _ _ hOpen))

theorem fst_closeLink (tracker : Tracker) (host : Host σ) :
    (tracker.closeLink host).1 = { tracker with link := .idle } := by
  rw [closeLink]
  split
  · rename_i hIdle
    rw [← hIdle]
  · rfl

theorem requestLink_steps {tracker : Tracker} {address : String} (hIdle : tracker.link = .idle)
    (hKnown : (tracker.find? address).isSome) (now : Nat) (host : Host σ) :
    LinkSteps (tracker, host) (tracker.requestLink address now host).2 := by
  have hWritten := LinkStep.write tracker host
    (.debug "Attempting to enable Bluetooth SCO" [("address", address)])
  refine .head hWritten ?_
  rw [requestLink]
  generalize host.write _ = host
  have hOpen := LinkStep.open tracker host address now hIdle hKnown
  have hRefuse := fun reason => LinkStep.refuse tracker host address reason hIdle hKnown
  cases hAnswer : host.enableLink address with
  | mk result asked =>
    rw [hAnswer] at hOpen hRefuse
    cases result with
    | ok => exact .single (hOpen rfl)
    | error reason => exact .head (hRefuse reason rfl) (LinkSteps.writeAll _ _ _)

theorem openLink_steps (tracker : Tracker) (address : String) (now : Nat) (host : Host σ) :
    LinkSteps (tracker, host) (tracker.openLink address now host).2 := by
  rw [openLink]
  split
  · exact .single (.write _ _ _)
  split
  · exact .single (.write _ _ _)
  · rename_i _ hKnown
    have hClosed := fst_closeLink tracker host
    have hIdle : (tracker.closeLink host).1.link = .idle := by rw [hClosed]
    have hFound : ((tracker.closeLink host).1.find? address).isSome := by
      rw [hClosed]
      simpa [find?, Option.isSome_iff_ne_none] using hKnown
    exact (closeLink_steps tracker host).trans (requestLink_steps hIdle hFound now _)

theorem requestLink_ok {tracker : Tracker} {address : String} {now : Nat} {host : Host σ}
    (h : (tracker.requestLink address now host).1 = .ok ()) :
    (tracker.requestLink address now host).2.1.link = .activating address now ∧
      (tracker.requestLink address now host).2.1.failed = tracker.failed := by
  rw [requestLink] at h ⊢
  revert h
  cases (host.write _).enableLink address with
  | mk result asked => cases result <;> simp

theorem requestLink_error {tracker : Tracker} {address : String} {now : Nat} {host : Host σ}
    {error : RoutingError} (h : (tracker.requestLink address now host).1 = .error error) :
    error = .linkFailed address ∧
      (tracker.requestLink address now host).2.1 = tracker.markFailed address := by
  rw [requestLink] at h ⊢
  revert h
  cases (host.write _).enableLink address with
  | mk result asked => cases result <;> simp [eq_comm]

theorem openLink_ok {tracker : Tracker} {address : String} {now : Nat} {host : Host σ}
    (h : (tracker.openLink address now host).1 = .ok ()) :
    (tracker.openLink address now host).2.1.link.address? = some address ∧
      (tracker.openLink address now host).2.1.failed = tracker.failed := by
  rw [openLink] at h ⊢
  split at h
  · rename_i hSame
    rw [if_pos hSame]
    exact ⟨hSame, rfl⟩
  split at h
  · cases h
  · rename_i hOther hKnown
    obtain ⟨hLink, hFailed⟩ := requestLink_ok h
    rw [if_neg hOther, if_neg hKnown, hLink, hFailed, fst_closeLink]
    exact ⟨rfl, rfl⟩

theorem checkTimeout_steps (tracker : Tracker) (now : Nat) (host : Host σ) :
    LinkSteps (tracker, host) (tracker.checkTimeout now host).2 := by
  rw [checkTimeout]
  split
  · rename_i address since hPending
    split
    · exact .refl
    · exact .tail (.tail (.single (.write _ _ _)) (.expire _ _ address since hPending))
        (.write _ _ _)
  · exact .refl

end Tracker

namespace Route

variable (base : Tracker) (tracker : Option Tracker) (host : Host σ)

theorem closeAny_steps : (closeAny tracker host).1.isSome = tracker.isSome ∧
    LinkSteps (tracker.getD base, host) ((closeAny tracker host).1.getD base,
      (closeAny tracker host).2) := by
  cases tracker with
  | none => exact ⟨rfl, .refl⟩
  | some tracker => exact ⟨rfl, tracker.closeLink_steps host⟩

theorem disable_steps (old : Device) (next : Option Device) :
    (disable old next tracker host).1.isSome = tracker.isSome ∧
    LinkSteps (tracker.getD base, host) ((disable old next tracker host).1.getD base,
      (disable old next tracker host).2) := by
  have hWritten := LinkStep.write (tracker.getD base) host
    (.debug "Disabling audio device" [("device", old.text)])
  cases old with
  | bluetoothHeadset headset =>
    rw [disable]
    split
    · exact ⟨rfl, .single hWritten⟩
    · obtain ⟨hSome, hSteps⟩ := closeAny_steps base tracker (host.write _)
      exact ⟨hSome, .head hWritten hSteps⟩
  | speakerphone => exact ⟨rfl, .tail (.single hWritten) (.speaker (tracker.getD base) _ false)⟩
  | earpiece => exact ⟨rfl, .single hWritten⟩
  | wiredHeadset => exact ⟨rfl, .single hWritten⟩

theorem vacate_steps (route : Route) (next : Option Device) :
    (route.vacate next tracker host).1.isSome = tracker.isSome ∧
    LinkSteps (tracker.getD base, host) ((route.vacate next tracker host).1.getD base,
      (route.vacate next tracker host).2) := by
  rw [vacate]
  split
  · exact disable_steps base tracker host _ next
  · exact ⟨rfl, .refl⟩

theorem enable_steps (device : Device) (now : Nat) :
    LinkSteps (tracker.getD base, host) ((enable device tracker now host).2.1.getD base,
      (enable device tracker now host).2.2) := by
  have hWritten := LinkStep.write (tracker.getD base) host
    (.info "Routing audio" [("device", device.text)])
  refine .head hWritten ?_
  cases device with
  | bluetoothHeadset headset =>
    cases tracker with
    | none => exact .refl
    | some tracker => exact tracker.openLink_steps headset.address now _
  | speakerphone => exact .single (.speaker (tracker.getD base) _ true)
  | earpiece => exact .refl
  | wiredHeadset => exact .refl

theorem routeTo_steps (route : Route) (device : Option Device) (now : Nat) :
    LinkSteps (tracker.getD base, host)
      ((route.routeTo device tracker now host).tracker.getD base,
        (route.routeTo device tracker now host).host) := by
  rw [routeTo]
  split
  · exact .refl
  · obtain ⟨_, hVacated⟩ := vacate_steps base tracker host route device
    cases device with
    | none => exact hVacated
    | some device =>
      have hEnabled := enable_steps base (route.vacate (some device) tracker host).1
        (route.vacate (some device) tracker host).2 device now
      refine hVacated.trans ?_
      simp only
      split <;> exact hEnabled

end Route

end CallAudio
