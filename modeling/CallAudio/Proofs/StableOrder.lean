import CallAudio.Proofs.Arrangement
import Mathlib.Data.List.Perm.Basic

/-! # Arranging is a stable sort

A device comes before another one when its kind is preferred or, among devices of one kind, when it
stands earlier in the input. At most one list holds the devices of the input in this order. An
arrangement is such a list, and so is the stable sort of the input without its repetitions.
-/

namespace CallAudio

section Lists

variable {α : Type} [DecidableEq α]

theorem idxOf_cons_lt_iff {list : List α} {head first second : α} (hFirst : first ≠ head)
    (hSecond : second ≠ head) :
    (head :: list).idxOf first < (head :: list).idxOf second ↔
      list.idxOf first < list.idxOf second := by
  rw [List.idxOf_cons_ne _ hFirst.symm, List.idxOf_cons_ne _ hSecond.symm, Nat.succ_lt_succ_iff]

theorem idxOf_filter_lt_iff {list : List α} (keep : α → Bool) {first second : α}
    (hFirst : keep first = true) (hSecond : keep second = true) :
    (list.filter keep).idxOf first < (list.filter keep).idxOf second ↔
      list.idxOf first < list.idxOf second := by
  induction list with
  | nil => rfl
  | cons head rest ih =>
    cases hHead : keep head with
    | false =>
      have hOther : ∀ {device}, keep device = true → device ≠ head := by
        rintro device hKeep rfl
        exact Bool.noConfusion (hKeep.symm.trans hHead)
      rw [List.filter_cons_of_neg (by simp [hHead]), ih,
        idxOf_cons_lt_iff (hOther hFirst) (hOther hSecond)]
    | true =>
      rw [List.filter_cons_of_pos hHead]
      by_cases hSecondHead : second = head
      · simp [hSecondHead]
      by_cases hFirstHead : first = head
      · simp [hFirstHead, List.idxOf_cons_ne _ (Ne.symm hSecondHead)]
      rw [idxOf_cons_lt_iff hFirstHead hSecondHead, idxOf_cons_lt_iff hFirstHead hSecondHead, ih]

/-- Without repetitions, a list is in the order of the first occurrences. -/
theorem pairwise_idxOf_eraseDups (list : List α) : list.eraseDups.Pairwise fun first second =>
    list.idxOf first < list.idxOf second := by
  cases list with
  | nil => exact .nil
  | cons head rest =>
    have hShorter : (rest.filter fun other => !other == head).length < rest.length + 1 :=
      Nat.lt_succ_of_le (List.length_filter_le _ _)
    rw [List.eraseDups_cons, List.pairwise_cons]
    constructor
    · intro second hMem
      have hSecond : second ≠ head := by
        simpa using (List.mem_filter.mp (List.mem_eraseDups.mp hMem)).2
      rw [List.idxOf_cons_self, List.idxOf_cons_ne _ hSecond.symm]
      exact Nat.succ_pos _
    · refine (pairwise_idxOf_eraseDups _).imp_of_mem ?_
      intro first second hFirst hSecond hLess
      have hFirstKept := (List.mem_filter.mp (List.mem_eraseDups.mp hFirst)).2
      have hSecondKept := (List.mem_filter.mp (List.mem_eraseDups.mp hSecond)).2
      rw [idxOf_cons_lt_iff (by simpa using hFirstKept) (by simpa using hSecondKept)]
      exact (idxOf_filter_lt_iff (fun other => !other == head) hFirstKept hSecondKept).mp hLess
termination_by list.length

end Lists

namespace PreferredOrder

variable {order : PreferredOrder} {devices arranged : List Device} {kind other : Kind}

/-- The first device has the better rank or, if both are of one kind, stands earlier in the list. -/
def Precedes (order : PreferredOrder) (devices : List Device) (first second : Device) : Prop :=
  order.rank first.kind ≤ order.rank second.kind ∧
    (first.kind = second.kind → devices.idxOf first < devices.idxOf second)

theorem rank_inj : order.rank kind = order.rank other ↔ kind = other :=
  List.idxOf_inj (order.complete kind)

theorem Precedes.asymm {first second : Device} (h : order.Precedes devices first second) :
    ¬order.Precedes devices second first := by
  intro hBack
  have hKind : first.kind = second.kind := rank_inj.mp (Nat.le_antisymm h.1 hBack.1)
  exact Nat.lt_asymm (h.2 hKind) (hBack.2 hKind.symm)

theorem nodup_of_precedes (h : arranged.Pairwise (order.Precedes devices)) : arranged.Nodup :=
  h.imp fun hPrecedes hSame => (hSame ▸ hPrecedes).asymm (hSame ▸ hPrecedes)

/-- Only pairs of one kind have to be looked at in a list that is sorted by rank. -/
theorem precedes_of_sorted
    (hSorted : arranged.Pairwise fun first second =>
      order.rank first.kind ≤ order.rank second.kind)
    (hKinds : ∀ kind, (arranged.filter (·.kind = kind)).Pairwise fun first second =>
      devices.idxOf first < devices.idxOf second) :
    arranged.Pairwise (order.Precedes devices) := by
  rw [List.pairwise_iff_forall_sublist] at hSorted ⊢
  refine fun {first second} hPair => ⟨hSorted hPair, fun hKind => ?_⟩
  have hFiltered := hPair.filter (·.kind = second.kind)
  rw [List.filter_eq_self.mpr (by simp [hKind])] at hFiltered
  exact (hKinds second.kind).forall_sublist hFiltered

theorem precedes_arrange : (order.arrange devices).Pairwise (order.Precedes devices) := by
  refine precedes_of_sorted sorted_arrange fun kind => ?_
  rw [filter_arrange]
  refine (pairwise_idxOf_eraseDups _).imp_of_mem ?_
  intro first second hFirst hSecond hLess
  exact (idxOf_filter_lt_iff (·.kind = kind) (decide_eq_true (kind_of_mem_part hFirst))
    (decide_eq_true (kind_of_mem_part hSecond))).mp hLess

def sort (order : PreferredOrder) (devices : List Device) : List Device :=
  devices.mergeSort fun first second => order.rank first.kind ≤ order.rank second.kind

theorem rank_le_trans (first second third : Device) :
    decide (order.rank first.kind ≤ order.rank second.kind) = true →
      decide (order.rank second.kind ≤ order.rank third.kind) = true →
      decide (order.rank first.kind ≤ order.rank third.kind) = true := by
  simp only [decide_eq_true_eq]
  exact Nat.le_trans

theorem rank_le_total (first second : Device) :
    (decide (order.rank first.kind ≤ order.rank second.kind) ||
      decide (order.rank second.kind ≤ order.rank first.kind)) = true := by
  simp only [Bool.or_eq_true, decide_eq_true_eq]
  exact Nat.le_total _ _

theorem sorted_sort : (order.sort devices).Pairwise fun first second =>
    order.rank first.kind ≤ order.rank second.kind :=
  (List.pairwise_mergeSort rank_le_trans rank_le_total devices).imp of_decide_eq_true

/-- The devices of one kind stay as they stand, since their ranks are equal. -/
theorem filter_sort (kind : Kind) :
    (order.sort devices).filter (·.kind = kind) = devices.filter (·.kind = kind) := by
  have hPart : (devices.filter (·.kind = kind)).Pairwise fun first second =>
      decide (order.rank first.kind ≤ order.rank second.kind) = true := by
    refine List.pairwise_of_forall_mem_list fun first hFirst second hSecond => ?_
    have hFirstKind : first.kind = kind := by simpa using (List.mem_filter.mp hFirst).2
    have hSecondKind : second.kind = kind := by simpa using (List.mem_filter.mp hSecond).2
    rw [hFirstKind, hSecondKind]
    exact decide_eq_true (Nat.le_refl _)
  have hKept : (devices.filter (·.kind = kind)).Sublist
      ((order.sort devices).filter (·.kind = kind)) := by
    have hSorted := List.sublist_mergeSort rank_le_trans rank_le_total hPart List.filter_sublist
    simpa [sort] using hSorted.filter (·.kind = kind)
  have hPerm : (order.sort devices).Perm devices := List.mergeSort_perm devices _
  exact (hKept.eq_of_length (hPerm.filter _).length_eq.symm).symm

theorem precedes_sort_eraseDups :
    (order.sort devices.eraseDups).Pairwise (order.Precedes devices) := by
  refine precedes_of_sorted sorted_sort fun kind => ?_
  rw [filter_sort]
  exact (pairwise_idxOf_eraseDups devices).filter _

theorem eq_of_precedes {others : List Device}
    (hArranged : arranged.Pairwise (order.Precedes devices))
    (hOthers : others.Pairwise (order.Precedes devices))
    (hSame : ∀ device, device ∈ arranged ↔ device ∈ others) : arranged = others := by
  have hPerm : arranged.Perm others :=
    (List.perm_ext_iff_of_nodup (nodup_of_precedes hArranged) (nodup_of_precedes hOthers)).mpr hSame
  exact hPerm.eq_of_pairwise (fun _ _ _ _ hPrecedes hBack => absurd hBack hPrecedes.asymm)
    hArranged hOthers

theorem arrange_eq_iff_precedes : order.arrange devices = arranged ↔
    (∀ device, device ∈ arranged ↔ device ∈ devices) ∧
      arranged.Pairwise (order.Precedes devices) := by
  constructor
  · rintro rfl
    exact ⟨fun _ => mem_arrange, precedes_arrange⟩
  · rintro ⟨hMem, hPrecedes⟩
    exact eq_of_precedes precedes_arrange hPrecedes fun device =>
      mem_arrange.trans (hMem device).symm

theorem arrange_eq_sort : order.arrange devices = order.sort devices.eraseDups := by
  refine arrange_eq_iff_precedes.mpr ⟨fun device => ?_, precedes_sort_eraseDups⟩
  rw [sort, List.mem_mergeSort, List.mem_eraseDups]

/-- What a search for the best of some devices comes to. A free device is found with the least rank
that a free device has, and it is the first of its kind that is free. -/
inductive Best (order : PreferredOrder) (excluded : Device → Bool) (devices : List Device) :
    Option Device → Prop
  | nothing : devices = [] → Best order excluded devices none
  | free {best : Device} :
    devices.find? (fun device => device.kind = best.kind && !excluded device) = some best →
    (∀ device ∈ devices, excluded device = false →
      order.rank best.kind ≤ order.rank device.kind) →
    Best order excluded devices (some best)
  | excluded {head : Device} {rest : List Device} :
    (∀ device ∈ devices, excluded device = true) → order.arrange devices = head :: rest →
    Best order excluded devices (some head)

variable {excluded : Device → Bool} {found others : Option Device}

theorem arrange_nil : order.arrange [] = [] :=
  List.eq_nil_iff_forall_not_mem.mpr fun _ hMem => List.not_mem_nil (mem_arrange.mp hMem)

theorem Best.unique (h : Best order excluded devices found)
    (hOther : Best order excluded devices others) : found = others := by
  have hFree : ∀ {best : Device}, devices.find?
      (fun device => device.kind = best.kind && !excluded device) = some best →
      best ∈ devices ∧ excluded best = false := by
    intro best hFind
    exact ⟨List.mem_of_find?_eq_some hFind, by simpa using List.find?_some hFind⟩
  cases h with
  | nothing hNil =>
    subst hNil
    cases hOther with
    | nothing => rfl
    | free hFind => cases hFind
    | excluded _ hHead => exact nomatch arrange_nil.symm.trans hHead
  | free hFind hLeast =>
    obtain ⟨hMem, hBest⟩ := hFree hFind
    cases hOther with
    | nothing hNil => exact absurd (hNil ▸ hMem) List.not_mem_nil
    | free hFindOther hLeastOther =>
      obtain ⟨hMemOther, hBestOther⟩ := hFree hFindOther
      have hKind := rank_inj.mp
        (Nat.le_antisymm (hLeast _ hMemOther hBestOther) (hLeastOther _ hMem hBest))
      rw [← hFind, ← hFindOther, hKind]
    | excluded hAll => exact nomatch hBest.symm.trans (hAll _ hMem)
  | excluded hAll hHead =>
    cases hOther with
    | nothing hNil =>
      subst hNil
      exact nomatch arrange_nil.symm.trans hHead
    | free hFind =>
      obtain ⟨hMem, hBest⟩ := hFree hFind
      exact nomatch hBest.symm.trans (hAll _ hMem)
    | excluded _ hHeadOther => rw [(List.cons.inj (hHead.symm.trans hHeadOther)).1]

theorem find?_arrange (order : PreferredOrder) (kind : Kind) (keep : Device → Bool) :
    (order.arrange devices).find? (fun device => device.kind = kind && keep device) =
      devices.find? fun device => device.kind = kind && keep device := by
  have hFilter : ∀ list : List Device,
      (list.filter (·.kind = kind)).find? keep =
        list.find? fun device => device.kind = kind && keep device := by
    intro list
    simp [List.find?_filter]
  rw [← hFilter, filter_arrange, find?_eraseDups, hFilter]

theorem best_bestDevice? :
    Best order excluded devices (bestDevice? excluded (order.arrange devices)) := by
  by_cases hFree : ∃ device ∈ order.arrange devices, excluded device = false
  · rw [bestDevice?_eq_find? hFree]
    cases hFind : (order.arrange devices).find? (!excluded ·) with
    | none =>
      obtain ⟨device, hMem, hDevice⟩ := hFree
      exact absurd (List.find?_eq_none.mp hFind device hMem) (by simp [hDevice])
    | some best =>
      -- All in front of the device is excluded, and nothing behind it has a better rank.
      obtain ⟨hBest, before, after, hSplit, hBefore⟩ := List.find?_eq_some_iff_append.mp hFind
      refine .free ?_ fun device hMem hDevice => ?_
      · rw [← order.find?_arrange, List.find?_eq_some_iff_append]
        refine ⟨by simpa using hBest, before, after, hSplit, fun device hMem => ?_⟩
        have hExcluded : excluded device = true := by simpa using hBefore device hMem
        simp [hExcluded]
      · have hSorted : (before ++ best :: after).Pairwise fun first second =>
            order.rank first.kind ≤ order.rank second.kind := hSplit ▸ sorted_arrange
        have hArranged : device ∈ before ++ best :: after := hSplit ▸ mem_arrange.mpr hMem
        rw [List.mem_append, List.mem_cons] at hArranged
        rw [List.pairwise_append, List.pairwise_cons] at hSorted
        rcases hArranged with hMem | rfl | hMem
        · exact absurd (hBefore device hMem) (by simp [hDevice])
        · exact Nat.le_refl _
        · exact hSorted.2.1.1 device hMem
  · have hAll : ∀ device ∈ order.arrange devices, excluded device = true := by
      simpa using hFree
    have hNone : (order.arrange devices).find? (!excluded ·) = none :=
      List.find?_eq_none.mpr fun device hMem => by simp [hAll device hMem]
    rw [bestDevice?, hNone, Option.none_or]
    cases hArranged : order.arrange devices with
    | nil =>
      refine .nothing (List.eq_nil_iff_forall_not_mem.mpr fun device hMem => ?_)
      exact List.not_mem_nil (hArranged ▸ mem_arrange.mpr hMem)
    | cons head rest =>
      exact .excluded (fun device hMem => hAll device (mem_arrange.mpr hMem)) hArranged

/-- An arrangement is the one list with the devices of the input in which a preferred kind comes first
and the devices of one kind keep the order of their first occurrences. It holds each device once, and
it is the stable sort of the input without its repetitions. Whatever is excluded, the best device of an
arrangement is what the input says: a free device that comes first among those of its kind, and the
head only if no device is free. -/
theorem arrange_exact (order : PreferredOrder) (devices : List Device) :
    (∀ arranged, order.arrange devices = arranged ↔
      (∀ device, device ∈ arranged ↔ device ∈ devices) ∧
        arranged.Pairwise (order.Precedes devices)) ∧
    (order.arrange devices).Nodup ∧
    order.arrange devices = order.sort devices.eraseDups ∧
    ∀ excluded found, bestDevice? excluded (order.arrange devices) = found ↔
      Best order excluded devices found := by
  refine ⟨fun arranged => arrange_eq_iff_precedes, nodup_arrange, arrange_eq_sort,
    fun excluded found => ⟨?_, best_bestDevice?.unique⟩⟩
  rintro rfl
  exact best_bestDevice?

end PreferredOrder

end CallAudio
