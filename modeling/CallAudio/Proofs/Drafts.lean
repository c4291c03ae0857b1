import CallAudio.Toml.Codec
import CallAudio.Toml.Draft
import Mathlib.Data.List.Basic

/-! # What the statements of sections make

A header opens a table behind those that are there, and the pairs that follow it go into this table
one behind the other. So as long as no key comes twice, the statements of sections make the document
that the sections say.
-/

namespace CallAudio.Toml

def Section.statements (part : Section) : List Statement :=
  .table [] part.name :: part.entries.map fun entry => .pair [] entry.1 entry.2.value

namespace Draft

variable {entries done : Entries} {name key : String} {pairs : List (String × Entry)}
  {part : Section} {sections : List Section}

def leaves (pairs : List (String × Entry)) : Entries :=
  pairs.map fun entry => (entry.1, leaf entry.2.value)

def ofSection (part : Section) : String × Draft := (part.name, table .header (leaves part.entries))

theorem entryValues_eq_map (entries : Entries) :
    entryValues entries = entries.map fun entry => (entry.1, entry.2.value) := by
  induction entries with
  | nil => rfl
  | cons entry entries ih => rw [entryValues, ih, List.map_cons]

/-- A key stays new while only names are taken that it is none of. -/
theorem lookup_append_of_mem {draft : Draft} {names : List String}
    (h : entries.lookup key = none) (hKey : key ∈ names) (hName : name ∉ names) :
    (entries ++ [(name, draft)]).lookup key = none := by
  have hOther : key ≠ name := by
    rintro rfl
    exact hName hKey
  rw [List.lookup_append, h, Option.none_or, List.lookup_cons, beq_false_of_ne hOther]
  rfl

theorem lookup_last (h : entries.lookup name = none) (draft : Draft) :
    (entries ++ [(name, draft)]).lookup name = some draft := by
  rw [List.lookup_append, h, Option.none_or, List.lookup_cons, beq_self_eq_true]

theorem replace_last (h : entries.lookup name = none) (old new : Draft) :
    replace name new (entries ++ [(name, old)]) = entries ++ [(name, new)] := by
  have hOthers : ∀ entry ∈ entries, (if entry.1 = name then (name, new) else entry) = entry := by
    intro entry hMem
    have hOther := List.lookup_eq_none_iff.mp h entry hMem
    exact if_neg fun hSame => by simp [hSame] at hOther
  rw [replace, List.map_append, List.map_congr_left hOthers, List.map_id', List.map_singleton,
    if_pos rfl]

theorem add_header (h : entries.lookup name = none) (current : List String) :
    add (current, entries) (.table [] name) =
      some ([name], entries ++ [(name, table .header [])]) := by
  simp [add, edit, openTable, h]

/-- A pair goes into the table under the last header. -/
theorem add_pair (h : entries.lookup name = none) (hKey : done.lookup key = none) (value : Value) :
    add ([name], entries ++ [(name, table .header done)]) (.pair [] key value) =
      some ([name], entries ++ [(name, table .header (done ++ [(key, leaf value)]))]) := by
  simp [add, edit, addPair, lookup_last h, hKey, replace_last h]

theorem add_pairs (h : entries.lookup name = none) (hKeys : (pairs.map Prod.fst).Nodup)
    (hNew : ∀ pair ∈ pairs, done.lookup pair.1 = none) :
    (pairs.map fun entry => Statement.pair [] entry.1 entry.2.value).foldlM add
        ([name], entries ++ [(name, table .header done)]) =
      some ([name], entries ++ [(name, table .header (done ++ leaves pairs))]) := by
  induction pairs generalizing done with
  | nil => simp [leaves]
  | cons pair pairs ih =>
    obtain ⟨hFirst, hRest⟩ := List.nodup_cons.mp hKeys
    rw [List.map_cons, List.foldlM_cons, add_pair h (hNew pair List.mem_cons_self)]
    have hLater : ∀ other ∈ pairs,
        (done ++ [(pair.1, leaf pair.2.value)]).lookup other.1 = none := by
      intro other hMem
      exact lookup_append_of_mem (hNew other (.tail _ hMem)) (List.mem_map_of_mem hMem) hFirst
    rw [Option.bind_eq_bind, Option.bind_some, ih hRest hLater, List.append_assoc]
    rfl

theorem add_section (h : entries.lookup part.name = none)
    (hKeys : (part.entries.map Prod.fst).Nodup) (current : List String) :
    part.statements.foldlM add (current, entries) =
      some ([part.name], entries ++ [ofSection part]) := by
  rw [Section.statements, List.foldlM_cons, add_header h, Option.bind_eq_bind, Option.bind_some,
    add_pairs h hKeys fun _ _ => rfl]
  rfl

theorem add_sections (hNames : (sections.map Section.name).Nodup)
    (hKeys : ∀ part ∈ sections, (part.entries.map Prod.fst).Nodup)
    (hNew : ∀ part ∈ sections, entries.lookup part.name = none) (current : List String) :
    ∃ last, (sections.flatMap Section.statements).foldlM add (current, entries) =
      some (last, entries ++ sections.map ofSection) := by
  induction sections generalizing entries current with
  | nil => exact ⟨current, by simp⟩
  | cons part sections ih =>
    obtain ⟨hFirst, hRest⟩ := List.nodup_cons.mp hNames
    have hLater : ∀ other ∈ sections, (entries ++ [ofSection part]).lookup other.name = none := by
      intro other hMem
      exact lookup_append_of_mem (hNew other (.tail _ hMem)) (List.mem_map_of_mem hMem) hFirst
    have hOthers : ∀ other ∈ sections, (other.entries.map Prod.fst).Nodup := by
      intro other hMem
      exact hKeys other (.tail _ hMem)
    obtain ⟨last, hFold⟩ := ih hRest hOthers hLater [part.name]
    refine ⟨last, ?_⟩
    rw [List.flatMap_cons, List.foldlM_append, add_section (hNew part List.mem_cons_self)
      (hKeys part List.mem_cons_self), Option.bind_eq_bind, Option.bind_some, hFold,
      List.append_assoc]
    rfl

theorem value_ofSection (part : Section) :
    ((ofSection part).1, (ofSection part).2.value) = (part.name, part.value) := by
  rw [ofSection, value, entryValues_eq_map, leaves, List.map_map]
  rfl

end Draft

theorem Value.ofStatements?_sections {sections : List Section} (h : IsPlain sections) :
    Value.ofStatements? (sections.flatMap Section.statements) = some (.ofSections sections) := by
  obtain ⟨last, hFold⟩ : ∃ last, (sections.flatMap Section.statements).foldlM Draft.add ([], []) =
      some (last, [] ++ sections.map Draft.ofSection) :=
    Draft.add_sections h.names h.keys (fun _ _ => rfl) []
  rw [Value.ofStatements?, hFold, Option.map_some, List.nil_append, Draft.entryValues_eq_map,
    List.map_map]
  exact congrArg (fun entries => some (Value.table entries))
    (List.map_congr_left fun part _ => Draft.value_ofSection part)

end CallAudio.Toml
