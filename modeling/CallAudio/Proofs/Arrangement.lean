import CallAudio.PreferredOrder
import Mathlib.Data.List.Nodup

/-! # Arranging devices

An arrangement holds the given devices, each once, and the preferred kinds come first. The best
device of a list is the first that is not excluded, as long as there is one.
-/

namespace CallAudio

theorem nodup_eraseDups {α : Type} [DecidableEq α] (list : List α) : list.eraseDups.Nodup := by
  cases list with
  | nil => exact .nil
  | cons first rest =>
    have hShorter : (rest.filter fun other => !other == first).length < rest.length + 1 :=
      Nat.lt_succ_of_le (List.length_filter_le _ _)
    rw [List.eraseDups_cons, List.nodup_cons]
    refine ⟨?_, nodup_eraseDups _⟩
    simp [List.mem_eraseDups]
termination_by list.length

theorem find?_eraseDups {α : Type} [DecidableEq α] (list : List α) (wanted : α → Bool) :
    list.eraseDups.find? wanted = list.find? wanted := by
  cases list with
  | nil => rfl
  | cons first rest =>
    have hShorter : (rest.filter fun other => !other == first).length < rest.length + 1 :=
      Nat.lt_succ_of_le (List.length_filter_le _ _)
    rw [List.eraseDups_cons, List.find?_cons, List.find?_cons]
    cases hFirst : wanted first with
    | true => rfl
    | false =>
      simp only
      rw [find?_eraseDups, List.find?_filter]
      congr 1
      funext other
      by_cases hSame : other = first
      · simp [hSame, hFirst]
      · simp [hSame]
termination_by list.length

namespace PreferredOrder

variable {order : PreferredOrder} {devices : List Device} {device : Device} {kind : Kind}

theorem kind_of_mem_part (h : device ∈ (devices.filter (·.kind = kind)).eraseDups) :
    device.kind = kind := by
  rw [List.mem_eraseDups, List.mem_filter] at h
  simpa using h.2

theorem mem_arrange : device ∈ order.arrange devices ↔ device ∈ devices := by
  simp [arrange, List.mem_eraseDups, order.complete]

theorem nodup_arrange : (order.arrange devices).Nodup := by
  rw [arrange, List.Nodup, List.pairwise_flatMap]
  refine ⟨fun kind _ => nodup_eraseDups _, order.nodup.imp ?_⟩
  intro kind other hDiffer first hFirst second hSecond hEq
  exact hDiffer (by rw [← kind_of_mem_part hFirst, ← kind_of_mem_part hSecond, hEq])

theorem pairwise_rank_lt : order.kinds.Pairwise fun kind other =>
    order.rank kind < order.rank other := by
  rw [List.pairwise_iff_getElem]
  intro i j hi hj hLess
  rw [rank, rank, order.nodup.idxOf_getElem i hi, order.nodup.idxOf_getElem j hj]
  exact hLess

theorem sorted_arrange :
    (order.arrange devices).Pairwise fun first second =>
      order.rank first.kind ≤ order.rank second.kind := by
  rw [arrange, List.pairwise_flatMap]
  constructor
  · intro kind _
    refine List.pairwise_of_forall_mem_list fun first hFirst second hSecond => ?_
    exact Nat.le_of_eq (by rw [kind_of_mem_part hFirst, kind_of_mem_part hSecond])
  · refine pairwise_rank_lt.imp ?_
    intro kind other hLess first hFirst second hSecond
    rw [kind_of_mem_part hFirst, kind_of_mem_part hSecond]
    exact Nat.le_of_lt hLess

/-- The devices of one kind are arranged as they came in, each once. -/
theorem filter_arrange (kind : Kind) : (order.arrange devices).filter (·.kind = kind) =
    (devices.filter (·.kind = kind)).eraseDups := by
  have hSame : ((devices.filter (·.kind = kind)).eraseDups).filter (·.kind = kind) =
      (devices.filter (·.kind = kind)).eraseDups := by
    refine List.filter_eq_self.mpr fun device hMem => ?_
    simpa using kind_of_mem_part hMem
  have hOther : ∀ kinds : List Kind, kind ∉ kinds → (kinds.flatMap fun other =>
      (devices.filter (·.kind = other)).eraseDups).filter (·.kind = kind) = [] := by
    intro kinds hAbsent
    refine List.filter_eq_nil_iff.mpr fun device hMem hKind => hAbsent ?_
    obtain ⟨other, hOther, hDevice⟩ := List.mem_flatMap.mp hMem
    rwa [← of_decide_eq_true hKind, kind_of_mem_part hDevice]
  obtain ⟨before, after, hKinds⟩ := List.append_of_mem (order.complete kind)
  have hNodup := order.nodup
  rw [hKinds, List.nodup_middle, List.nodup_cons, List.mem_append, not_or] at hNodup
  rw [arrange, hKinds, List.flatMap_append, List.flatMap_cons, List.filter_append,
    List.filter_append, hOther before hNodup.1.1, hOther after hNodup.1.2, hSame]
  simp

end PreferredOrder

variable {excluded : Device → Bool} {devices : List Device} {device : Device}

theorem bestDevice?_eq_find? (h : ∃ device ∈ devices, excluded device = false) :
    bestDevice? excluded devices = devices.find? (!excluded ·) := by
  obtain ⟨device, hMem, hFree⟩ := h
  have hFound : (devices.find? (!excluded ·)).isSome := by
    rw [List.find?_isSome]
    exact ⟨device, hMem, by simp [hFree]⟩
  rw [bestDevice?, Option.or_of_isSome hFound]

end CallAudio
