import CallAudio.Settings
import Mathlib.Data.List.Nodup

/-! # What a list of preferred kinds comes to

The spellings are read from the left, and the first that spells nothing is the error, whatever else is
wrong with the list. A list that can be read is refused for the first kind that comes again. What is
left are the lists without repetitions: they begin an order of all four kinds, and the kinds that they
leave out end it.
-/

namespace CallAudio

inductive Ranks (texts : List String) : Except RoutingError (List Kind) → Prop
  | unknown {before after : List String} {text : String} :
    texts = before ++ text :: after → (∀ other ∈ before, (Kind.ofText? other).isSome) →
    Kind.ofText? text = none → Ranks texts (.error (.unknownKind text))
  | repeated {before after : List Kind} {kind : Kind} :
    texts.map Kind.ofText? = (before ++ kind :: after).map some → before.Nodup → kind ∈ before →
    Ranks texts (.error (.duplicatePreferred kind))
  | distinct {kinds : List Kind} :
    texts.map Kind.ofText? = kinds.map some → kinds.Nodup →
    Ranks texts (.ok (kinds ++ Kind.all.filter (· ∉ kinds)))

/-- The places with the items put into them from the first on. Items that find no place are lost, and
places that get no item keep what they held. -/
def refill {α : Type} (places items : List α) : List α :=
  items.take places.length ++ places.drop items.length

theorem refill_of_length_eq {α : Type} {places items : List α}
    (h : items.length = places.length) : refill places items = items := by
  rw [refill, h, List.drop_length, List.append_nil, ← h, List.take_length]

namespace Kind

theorem ofText_of_some {text : String} {kind : Kind} (h : ofText? text = some kind) :
    ofText text = .ok kind := by rw [ofText, h]

theorem ofText_of_none {text : String} (h : ofText? text = none) :
    ofText text = .error (.unknownKind text) := by rw [ofText, h]

theorem mapM_ofText_eq_ok_iff {texts : List String} {kinds : List Kind} :
    texts.mapM ofText = .ok kinds ↔ texts.map ofText? = kinds.map some := by
  induction texts generalizing kinds with
  | nil => cases kinds <;> simp [pure, Except.pure]
  | cons text texts ih =>
    rw [List.mapM_cons]
    cases hRead : ofText? text with
    | none =>
      rw [ofText_of_none hRead]
      cases kinds <;> simp [bind, Except.bind, hRead]
    | some kind =>
      rw [ofText_of_some hRead]
      cases hRest : texts.mapM ofText with
      | error error =>
        cases kinds <;> simp [bind, Except.bind, hRead, ← ih, hRest]
      | ok rest =>
        cases kinds <;> simp [bind, Except.bind, pure, Except.pure, hRead, ← ih, hRest]

/-- Reading stops at the first text that spells nothing. -/
theorem mapM_ofText_eq_error {before after : List String} {text : String}
    (hBefore : ∀ other ∈ before, (ofText? other).isSome) (hNone : ofText? text = none) :
    (before ++ text :: after).mapM ofText = .error (.unknownKind text) := by
  induction before with
  | nil =>
    rw [List.nil_append, List.mapM_cons, ofText_of_none hNone]
    rfl
  | cons first before ih =>
    obtain ⟨kind, hRead⟩ := Option.isSome_iff_exists.mp (hBefore first List.mem_cons_self)
    rw [List.cons_append, List.mapM_cons, ofText_of_some hRead,
      ih fun other hMem => hBefore other (.tail _ hMem)]
    rfl

/-- Either all texts can be read, or there is a first one that cannot. -/
theorem all_read_or_first_unread (texts : List String) :
    (∃ kinds : List Kind, texts.map ofText? = kinds.map some) ∨
      ∃ before text after, texts = before ++ text :: after ∧
        (∀ other ∈ before, (ofText? other).isSome) ∧ ofText? text = none := by
  induction texts with
  | nil => exact .inl ⟨[], rfl⟩
  | cons text texts ih =>
    cases hRead : ofText? text with
    | none => exact .inr ⟨[], text, texts, rfl, by simp, hRead⟩
    | some kind =>
      rcases ih with ⟨kinds, hKinds⟩ | ⟨before, unread, after, rfl, hBefore, hNone⟩
      · exact .inl ⟨kind :: kinds, by simp [hRead, hKinds]⟩
      · refine .inr ⟨text :: before, unread, after, rfl, ?_, hNone⟩
        exact List.forall_mem_cons.mpr ⟨by simp [hRead], hBefore⟩

end Kind

namespace PreferredOrder

/-- The kind that is found comes again, and none does before it. -/
theorem firstRepeat?_eq_some_iff {seen kinds : List Kind} {kind : Kind} :
    firstRepeat? seen kinds = some kind ↔ ∃ before after, kinds = before ++ kind :: after ∧
      before.Nodup ∧ (∀ other ∈ before, other ∉ seen) ∧ (kind ∈ before ∨ kind ∈ seen) := by
  induction kinds generalizing seen with
  | nil => simp [firstRepeat?]
  | cons first rest ih =>
    rw [firstRepeat?]
    split
    · rename_i hSeen
      rw [Option.some_inj]
      refine ⟨fun hSame => ⟨[], rest, by rw [hSame]; rfl, .nil, by simp, .inr (hSame ▸ hSeen)⟩, ?_⟩
      rintro ⟨before, after, hSplit, _, hFresh, _⟩
      cases before with
      | nil => exact (List.cons.inj hSplit).1
      | cons other before =>
        obtain ⟨rfl, _⟩ := List.cons.inj hSplit
        exact absurd hSeen (hFresh first List.mem_cons_self)
    · rename_i hFirst
      rw [ih]
      constructor
      · rintro ⟨before, after, rfl, hNodup, hFresh, hRepeats⟩
        refine ⟨first :: before, after, rfl, List.nodup_cons.mpr ⟨fun hMem => ?_, hNodup⟩, ?_, ?_⟩
        · exact hFresh first hMem List.mem_cons_self
        · exact List.forall_mem_cons.mpr ⟨hFirst, fun other hMem hSeen =>
            hFresh other hMem (.tail _ hSeen)⟩
        · rw [List.mem_cons] at hRepeats ⊢
          tauto
      · rintro ⟨before, after, hSplit, hNodup, hFresh, hRepeats⟩
        cases before with
        | nil =>
          obtain ⟨rfl, _⟩ := List.cons.inj hSplit
          exact absurd (hRepeats.resolve_left List.not_mem_nil) hFirst
        | cons other before =>
          obtain ⟨rfl, rfl⟩ := List.cons.inj hSplit
          obtain ⟨hNew, hRest⟩ := List.nodup_cons.mp hNodup
          refine ⟨before, after, rfl, hRest, fun other hMem hSeen => ?_, ?_⟩
          · rcases List.mem_cons.mp hSeen with rfl | hOld
            · exact hNew hMem
            · exact hFresh other (.tail _ hMem) hOld
          · rw [List.mem_cons] at hRepeats ⊢
            tauto

theorem ofList_of_repeat {listed : List Kind} {kind : Kind}
    (h : firstRepeat? [] listed = some kind) :
    ofList listed = .error (.duplicatePreferred kind) := by
  rw [ofList]
  split
  · rename_i other hOther
    cases h.symm.trans hOther
    rfl
  · rename_i hNone
    cases h.symm.trans hNone

theorem ofList_of_nodup {listed : List Kind} (h : listed.Nodup) :
    ∃ order, ofList listed = .ok order ∧ order.kinds = listed ++ remaining listed := by
  have hNone : firstRepeat? [] listed = none := firstRepeat?_eq_none_iff.mpr ⟨h, by simp⟩
  rw [ofList]
  split
  · rename_i other hOther
    cases hNone.symm.trans hOther
  · exact ⟨_, rfl, rfl⟩

theorem perm_all (order : PreferredOrder) : order.kinds.Perm Kind.all :=
  (List.perm_ext_iff_of_nodup order.nodup Kind.nodup_all).mpr fun kind =>
    ⟨fun _ => Kind.mem_all kind, fun _ => order.complete kind⟩

end PreferredOrder

namespace Settings

variable {settings : Settings}

theorem order_eq_bind (settings : Settings) :
    settings.order = settings.kinds.bind PreferredOrder.ofList := rfl

theorem order_of_ranks {outcome : Except RoutingError (List Kind)}
    (h : Ranks settings.preferred outcome) :
    settings.order.map PreferredOrder.kinds = outcome := by
  rw [order_eq_bind, kinds]
  cases h with
  | unknown hSplit hBefore hNone =>
    rw [hSplit, Kind.mapM_ofText_eq_error hBefore hNone]
    rfl
  | @repeated before after kind hRead hNodup hMem =>
    have hRepeat : PreferredOrder.firstRepeat? [] (before ++ kind :: after) = some kind :=
      PreferredOrder.firstRepeat?_eq_some_iff.mpr
        ⟨before, after, rfl, hNodup, fun _ _ => List.not_mem_nil, .inl hMem⟩
    rw [Kind.mapM_ofText_eq_ok_iff.mpr hRead, Except.bind, PreferredOrder.ofList_of_repeat hRepeat]
    rfl
  | distinct hRead hNodup =>
    obtain ⟨order, hOrder, hKinds⟩ := PreferredOrder.ofList_of_nodup hNodup
    rw [Kind.mapM_ofText_eq_ok_iff.mpr hRead, Except.bind, hOrder, Except.map, hKinds]
    rfl

theorem exists_ranks (texts : List String) : ∃ outcome, Ranks texts outcome := by
  rcases Kind.all_read_or_first_unread texts with
    ⟨kinds, hRead⟩ | ⟨before, text, after, hSplit, hBefore, hNone⟩
  · cases hFound : PreferredOrder.firstRepeat? [] kinds with
    | none => exact ⟨_, .distinct hRead (PreferredOrder.firstRepeat?_eq_none_iff.mp hFound).1⟩
    | some kind =>
      obtain ⟨before, after, rfl, hNodup, _, hRepeats⟩ :=
        PreferredOrder.firstRepeat?_eq_some_iff.mp hFound
      exact ⟨_, .repeated hRead hNodup (hRepeats.resolve_right List.not_mem_nil)⟩
  · exact ⟨_, .unknown hSplit hBefore hNone⟩

theorem order_eq_iff_ranks {outcome : Except RoutingError (List Kind)} :
    settings.order.map PreferredOrder.kinds = outcome ↔ Ranks settings.preferred outcome := by
  refine ⟨?_, order_of_ranks⟩
  rintro rfl
  obtain ⟨outcome, hRanks⟩ := exists_ranks settings.preferred
  rwa [order_of_ranks hRanks]

/-- Whatever spellings the settings hold, their order is what the list comes to, error or kinds; and the
same holds of the configuration. An order that is accepted has each of the four kinds once, so putting
the listed kinds and then the others into the four places of the usual order loses none and leaves no
place as it was. -/
theorem order_exact (settings : Settings) :
    (∀ outcome, settings.order.map PreferredOrder.kinds = outcome ↔
      Ranks settings.preferred outcome) ∧
    (∀ order, settings.order = .ok order → order.kinds.Perm Kind.all ∧
      ∃ listed, settings.preferred.map Kind.ofText? = listed.map some ∧
        refill Kind.all (listed ++ Kind.all.filter (· ∉ listed)) = order.kinds) ∧
    settings.switchConfig = settings.order.map fun order =>
      ⟨order, settings.linkTimeout, settings.managesAudio, settings.logging⟩ := by
  refine ⟨fun outcome => order_eq_iff_ranks, fun order hOrder => ?_, ?_⟩
  · have hPerm := order.perm_all
    have hRanks : Ranks settings.preferred (.ok order.kinds) :=
      order_eq_iff_ranks.mp (by rw [hOrder]; rfl)
    generalize hOutcome : (.ok order.kinds : Except RoutingError (List Kind)) = outcome at hRanks
    cases hRanks with
    | unknown => cases hOutcome
    | repeated => cases hOutcome
    | distinct hRead _ =>
      have hKinds := Except.ok.inj hOutcome
      refine ⟨hPerm, _, hRead, ?_⟩
      rw [← hKinds]
      exact refill_of_length_eq hPerm.length_eq
  · rw [switchConfig]
    cases settings.order <;> rfl

end Settings

end CallAudio
