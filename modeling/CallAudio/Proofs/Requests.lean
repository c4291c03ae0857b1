import CallAudio.Proofs.Issued
import CallAudio.Proofs.Operations

/-! # Requests for links

One attempt to route a device asks for at most one link, the one to the selected headset, and it
asks last. The attempt fails exactly if the platform refuses this request.
-/

namespace CallAudio

def Command.isRequest : Command → Bool
  | enableLink _ => true
  | _ => false

theorem Command.isRequest_of_isSetting {command : Command} (h : command.isSetting = true) :
    command.isRequest = false := by
  cases command <;> first | rfl | cases h

def LinkAnswer.isRefused : LinkAnswer → Bool
  | refused _ => true
  | _ => false

variable {σ : Type} [Platform σ]

def AsksNobody (before after : Host σ) : Prop :=
  ∃ issued, Issued issued before after ∧ ∀ command ∈ issued, command.isRequest = false

def AsksFor (address : String) (refused : Bool) (before after : Host σ) : Prop :=
  ∃ middle, AsksNobody before middle ∧
    (Platform.linkAnswer middle.platform address).isRefused = refused ∧
      Issued [.enableLink address] middle after

/-- What comes of an attempt to open a link. -/
inductive Attempt (address : String) (before after : Host σ) : Except RoutingError Unit → Prop
  | spared : AsksNobody before after → Attempt address before after (.ok ())
  | granted : AsksFor address false before after → Attempt address before after (.ok ())
  | refused (error : RoutingError) : AsksFor address true before after →
    Attempt address before after (.error error)

namespace AsksNobody

variable {before middle after : Host σ}

theorem of_issued {issued : List Command} (h : Issued issued before after)
    (hOther : ∀ command ∈ issued, command.isRequest = false) : AsksNobody before after :=
  ⟨issued, h, hOther⟩

theorem of_mute (h : Issued [] before after) : AsksNobody before after := of_issued h (by simp)

theorem refl (host : Host σ) : AsksNobody host host := of_mute (.refl host)

theorem trans (h : AsksNobody before middle) (h' : AsksNobody middle after) :
    AsksNobody before after := by
  obtain ⟨first, hFirst, hEarly⟩ := h
  obtain ⟨last, hLast, hLate⟩ := h'
  refine of_issued (hFirst.trans hLast) fun command hMem => ?_
  exact (List.mem_append.mp hMem).elim (hEarly command) (hLate command)

theorem write (host : Host σ) (line : LogLine) : AsksNobody host (host.write line) :=
  of_mute (.write host line)

theorem closeLink (tracker : Tracker) (host : Host σ) :
    AsksNobody host (tracker.closeLink host).2 := by
  refine of_issued (.closeLink tracker host) fun command hMem => ?_
  split at hMem
  · cases hMem
  · rw [List.mem_singleton.mp hMem]
    rfl

theorem closeAny (tracker : Option Tracker) (host : Host σ) :
    AsksNobody host (Route.closeAny tracker host).2 := by
  cases tracker with
  | none => exact refl host
  | some tracker => exact closeLink tracker host

theorem disable (old : Device) (next : Option Device) (tracker : Option Tracker) (host : Host σ) :
    AsksNobody host (Route.disable old next tracker host).2 := by
  have hWritten := write host (.debug "Disabling audio device" [("device", old.text)])
  cases old with
  | bluetoothHeadset headset =>
    rw [Route.disable]
    split
    · exact hWritten
    · exact hWritten.trans (closeAny tracker _)
  | speakerphone => exact hWritten.trans (of_issued (.issue _ _) (by simp [Command.isRequest]))
  | earpiece => exact hWritten
  | wiredHeadset => exact hWritten

theorem vacate (route : Route) (next : Option Device) (tracker : Option Tracker) (host : Host σ) :
    AsksNobody host (route.vacate next tracker host).2 := by
  rw [Route.vacate]
  split
  · exact disable _ next tracker host
  · exact refl host

theorem checkTimeout (tracker : Tracker) (now : Nat) (host : Host σ) :
    AsksNobody host (tracker.checkTimeout now host).2.2 := by
  rw [Tracker.checkTimeout]
  split
  · split
    · exact refl host
    · exact ((write host _).trans (of_issued (.issue _ _) (by simp [Command.isRequest]))).trans
        (write _ _)
  · exact refl host

end AsksNobody

theorem AsksFor.after {address : String} {refused : Bool} {before middle after : Host σ}
    (h : AsksFor address refused middle after) (hNobody : AsksNobody before middle) :
    AsksFor address refused before after := by
  obtain ⟨asking, hBefore, hRest⟩ := h
  exact ⟨asking, hNobody.trans hBefore, hRest⟩

theorem Attempt.after {address : String} {before middle after : Host σ}
    {result : Except RoutingError Unit} (h : Attempt address middle after result)
    (hNobody : AsksNobody before middle) : Attempt address before after result := by
  cases h with
  | spared hSpared => exact .spared (hNobody.trans hSpared)
  | granted hAsks => exact .granted (hAsks.after hNobody)
  | refused error hAsks => exact .refused error (hAsks.after hNobody)

theorem Host.enableLink_isOk (host : Host σ) (address : String) :
    ((host.enableLink address).1 = .ok () ∧
        (Platform.linkAnswer host.platform address).isRefused = false) ∨
      ∃ reason, (host.enableLink address).1 = .error reason ∧
        (Platform.linkAnswer host.platform address).isRefused = true := by
  rw [Host.enableLink]
  cases Platform.linkAnswer host.platform address with
  | refused reason => exact .inr ⟨reason, rfl, rfl⟩
  | pending => exact .inl ⟨rfl, rfl⟩
  | confirmed => exact .inl ⟨rfl, rfl⟩

namespace Tracker

theorem attempt_requestLink (tracker : Tracker) (address : String) (now : Nat) (host : Host σ) :
    Attempt address host (tracker.requestLink address now host).2.2
      (tracker.requestLink address now host).1 := by
  have hWritten := AsksNobody.write host
    (.debug "Attempting to enable Bluetooth SCO" [("address", address)])
  rw [requestLink]
  generalize host.write _ = host at *
  have hIssued := Issued.enableLink host address
  have hAnswer := host.enableLink_isOk address
  generalize host.enableLink address = asked at *
  obtain ⟨result, asked⟩ := asked
  rcases hAnswer with ⟨rfl, hGranted⟩ | ⟨reason, rfl, hRefused⟩
  · exact .granted ⟨host, hWritten, hGranted, hIssued⟩
  · refine .refused _ ⟨host, hWritten, hRefused, ?_⟩
    exact (hIssued.trans (.writeAll asked _)).cast (List.append_nil _)

theorem attempt_openLink {tracker : Tracker} {address : String}
    (hKnown : (tracker.find? address).isSome) (now : Nat) (host : Host σ) :
    Attempt address host (tracker.openLink address now host).2.2
      (tracker.openLink address now host).1 := by
  rw [openLink]
  split
  · exact .spared (.write host _)
  · rw [if_neg (by simpa using Option.isSome_iff_ne_none.mp hKnown)]
    exact (attempt_requestLink _ address now _).after (.closeLink tracker host)

end Tracker

namespace Route

theorem attempt_enable {tracker : Tracker} {headset : Headset}
    (hKnown : (tracker.find? headset.address).isSome) (now : Nat) (host : Host σ) :
    Attempt headset.address host (enable (.bluetoothHeadset headset) (some tracker) now host).2.2
      (enable (.bluetoothHeadset headset) (some tracker) now host).1 :=
  (Tracker.attempt_openLink hKnown now _).after (.write host _)

/-- Routing a device asks for a link only if it is a headset, and then only for its own. -/
theorem attempt_routeTo {base : Tracker} {device : Option Device}
    (hKnown : ∀ headset, device = some (.bluetoothHeadset headset) →
      base.listening = true ∧ (base.find? headset.address).isSome)
    (route : Route) (now : Nat) (host : Host σ) :
    let outcome := route.routeTo device base.listening? now host
    (outcome.result = .ok () ∧ AsksNobody host outcome.host) ∨
      ∃ headset, device = some (.bluetoothHeadset headset) ∧
        Attempt headset.address host outcome.host outcome.result := by
  have hVacated := AsksNobody.vacate route device base.listening? host
  rw [routeTo]
  split
  · exact .inl ⟨rfl, .refl host⟩
  cases device with
  | none => exact .inl ⟨rfl, hVacated⟩
  | some device =>
    have hWritten := hVacated.trans (AsksNobody.write _
      (.info "Routing audio" [("device", device.text)]))
    cases device with
    | bluetoothHeadset headset =>
      obtain ⟨hListening, hFound⟩ := hKnown headset rfl
      have hTracker : (route.vacate (some (.bluetoothHeadset headset)) base.listening? host).1 =
          some base := by
        simp [fst_vacate, Tracker.listening?, hListening, Device.isBluetooth]
      refine .inr ⟨headset, rfl, ?_⟩
      have hAttempt := (attempt_enable hFound now _).after hVacated
      simp only [hTracker]
      split
      · rename_i hOk
        exact hOk ▸ hAttempt
      · rename_i hError
        exact hError ▸ hAttempt
    | speakerphone =>
      exact .inl ⟨rfl, hWritten.trans (.of_issued (.issue _ _) (by simp [Command.isRequest]))⟩
    | earpiece => exact .inl ⟨rfl, hWritten⟩
    | wiredHeadset => exact .inl ⟨rfl, hWritten⟩

end Route

namespace Switch

variable (switch : Switch σ)

theorem Poised.attempt_routeOnce {switch : Switch σ} (h : switch.Poised) (now : Nat) :
    ((switch.routeOnce now).1 = .ok () ∧ AsksNobody switch.host (switch.routeOnce now).2.host) ∨
      ∃ headset, switch.selector.selected = some (.bluetoothHeadset headset) ∧
        Attempt headset.address switch.host (switch.routeOnce now).2.host
          (switch.routeOnce now).1 :=
  Route.attempt_routeTo (fun _ => h.selected_known) switch.route now switch.host

theorem asksNobody_deactivateRoute : AsksNobody switch.host switch.deactivateRoute.host := by
  refine .of_issued switch.issued_deactivateRoute fun command hMem => ?_
  split at hMem
  · rcases List.mem_append.mp hMem with hBefore | hRestoring
    · rcases List.mem_append.mp hBefore with hSilencing | hFocus
      · rw [Route.silencing] at hSilencing
        split at hSilencing
        · split at hSilencing
          · rw [List.mem_singleton.mp hSilencing]
            rfl
          · cases hSilencing
        · rw [List.mem_singleton.mp hSilencing]
          rfl
        · cases hSilencing
      · split at hFocus
        · rw [List.mem_singleton.mp hFocus]
          rfl
        · cases hFocus
    · exact Command.isRequest_of_isSetting (Route.isSetting_of_mem_restoring hRestoring)
  · cases hMem

theorem asksNobody_leave : AsksNobody switch.host switch.leave.host := by
  obtain ⟨issued, hOnly, hIssued⟩ := switch.issued_leave
  refine .of_issued hIssued fun command hMem => ?_
  rcases hOnly command hMem with rfl | rfl | rfl <;> rfl

theorem asksNobody_stop : AsksNobody switch.host switch.stop.host := by
  rw [stop]
  split
  · exact .refl _
  · have hWritten : AsksNobody switch.host (switch.write (.info "Stopping audio switch" [])).host :=
      .write switch.host _
    exact (hWritten.trans (asksNobody_deactivateRoute _)).trans (asksNobody_leave _)

theorem asksNobody_activate : AsksNobody switch.host (switch.route.activate switch.host).2.2 := by
  refine .of_issued (Issued.activate switch.route switch.host) fun command hMem => ?_
  rcases List.mem_append.mp hMem with hPreparing | hFocus
  · exact Command.isRequest_of_isSetting (Route.isSetting_of_mem_preparing hPreparing)
  · split at hFocus
    · cases hFocus
    · rw [List.mem_singleton.mp hFocus]
      rfl

theorem asksNobody_startBluetooth : AsksNobody switch.host switch.startBluetooth.host := by
  obtain ⟨issued, hOnly, hIssued⟩ := switch.issued_startBluetooth
  exact .of_issued hIssued fun command hMem => hOnly command hMem ▸ rfl

theorem asksNobody_startWired : AsksNobody switch.host switch.startWired.host := by
  obtain ⟨issued, hOnly, hIssued⟩ := switch.issued_startWired
  exact .of_issued hIssued fun command hMem => hOnly command hMem ▸ rfl

theorem asksNobody_absorb : AsksNobody switch.host switch.absorb.host := by
  let kept (after : Switch σ) : Prop := AsksNobody switch.host after.host
  have hCallback : ∀ (after : Switch σ) callback, kept after →
      kept (after.applyCallback callback).2 :=
    fun after callback h => h.trans (.of_mute (after.issued_applyCallback callback))
  have hTaken : kept { switch with host := { switch.host with queue := [] } } :=
    .of_mute (.of_same rfl rfl)
  exact absorb_induction hCallback hTaken

end Switch

end CallAudio
