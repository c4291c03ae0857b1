import CallAudio.Toml.Reader
import Mathlib.Data.List.Basic

/-! # What readers read

A reader that succeeds on a text leaves an end of it; one that fails refuses the text. Each way of
putting readers together has a rule for either outcome, so that what a grammar reads follows from
what its parts read, piece by piece along the text.
-/

namespace CallAudio.Toml

theorem Source.eq_ofList {source : Source} {chars : List Char} (h : source.chars = chars) :
    source = .ofList chars := by
  obtain ⟨_, _, rfl⟩ := source
  subst h
  rfl

namespace Reader

variable {α β : Type} {reader other : Reader α} {next : α → Reader β} {separator : Reader β}
  {value : α} {result : β} {values : List α} {text before middle after : List Char}
  {accept : Char → Bool}

/-- `reader` finds `value` at the front of the text `before`, and `after` is what it leaves. -/
def Reads (reader : Reader α) (before : List Char) (value : α) (after : List Char) : Prop :=
  reader (.ofList before) = some (value, .ofList after)

def Refuses (reader : Reader α) (text : List Char) : Prop := reader (.ofList text) = none

theorem reads_or_refuses (reader : Reader α) (text : List Char) :
    (∃ value after, Reads reader text value after) ∨ Refuses reader text := by
  cases hRead : reader (.ofList text) with
  | none => exact .inr hRead
  | some read =>
    refine .inl ⟨read.1, read.2.chars, ?_⟩
    rw [Reads, hRead, ← Source.eq_ofList (rfl : read.2.chars = _)]

/-! ## One after the other -/

theorem bind_apply (reader : Reader α) (next : α → Reader β) (source : Source) :
    (reader >>= next) source = (reader source).bind fun read => next read.1 read.2 := rfl

theorem reads_pure (value : α) (text : List Char) : Reads (pure value) text value text := rfl

theorem Reads.bind (h : Reads reader before value middle)
    (hNext : Reads (next value) middle result after) :
    Reads (reader >>= next) before result after := by
  rw [Reads, bind_apply, show reader _ = _ from h]
  exact hNext

theorem Reads.bind_refuses (h : Reads reader before value after)
    (hNext : Refuses (next value) after) : Refuses (reader >>= next) before := by
  rw [Refuses, bind_apply, show reader _ = _ from h]
  exact hNext

theorem Reads.of_bind (h : Reads (reader >>= next) before result after) :
    ∃ value middle, Reads reader before value middle ∧ Reads (next value) middle result after := by
  rw [Reads, bind_apply] at h
  rcases reads_or_refuses reader before with ⟨value, middle, hReads⟩ | hRefuses
  · rw [show reader _ = _ from hReads] at h
    exact ⟨value, middle, hReads, h⟩
  · rw [show reader _ = _ from hRefuses] at h
    cases h

theorem Refuses.bind (h : Refuses reader text) : Refuses (reader >>= next) text := by
  rw [Refuses, bind_apply, show reader _ = _ from h]
  rfl

/-- It is enough that what follows refuses wherever it may have to go on. -/
theorem refuses_bind
    (h : ∀ value after, Reads reader text value after → Refuses (next value) after) :
    Refuses (reader >>= next) text := by
  rcases reads_or_refuses reader text with ⟨value, after, hReads⟩ | hRefuses
  · exact hReads.bind_refuses (h value after hReads)
  · exact hRefuses.bind

theorem map_eq_bind (f : α → β) (reader : Reader α) :
    f <$> reader = reader >>= fun value => pure (f value) := rfl

theorem Reads.map (h : Reads reader before value after) (f : α → β) :
    Reads (f <$> reader) before (f value) after := by
  rw [map_eq_bind]
  exact h.bind (reads_pure _ _)

theorem Reads.ofList {reader : Reader (List Char)} {text : String}
    (h : Reads reader before text.toList after) :
    Reads (String.ofList <$> reader) before text after := by
  have hFound := h.map String.ofList
  rwa [String.ofList_toList] at hFound

theorem Refuses.map (h : Refuses reader text) (f : α → β) : Refuses (f <$> reader) text := by
  rw [map_eq_bind]
  exact h.bind

theorem seqRight_eq_bind (separator : Reader β) (reader : Reader α) :
    separator *> reader = separator >>= fun _ => reader := rfl

theorem Reads.seqRight (h : Reads separator before result middle)
    (hReader : Reads reader middle value after) :
    Reads (separator *> reader) before value after := by
  rw [seqRight_eq_bind]
  exact h.bind hReader

theorem Reads.seqRight_refuses (h : Reads separator before result after)
    (hReader : Refuses reader after) : Refuses (separator *> reader) before := by
  rw [seqRight_eq_bind]
  exact h.bind_refuses hReader

theorem Refuses.seqRight (h : Refuses separator text) : Refuses (separator *> reader) text := by
  rw [seqRight_eq_bind]
  exact h.bind

theorem seqLeft_eq_bind (reader : Reader α) (separator : Reader β) :
    reader <* separator = reader >>= fun value => separator >>= fun _ => pure value := rfl

theorem Reads.seqLeft (h : Reads reader before value middle)
    (hSeparator : Reads separator middle result after) :
    Reads (reader <* separator) before value after := by
  rw [seqLeft_eq_bind]
  exact h.bind (hSeparator.bind (reads_pure _ _))

theorem Refuses.seqLeft (h : Refuses reader text) : Refuses (reader <* separator) text := by
  rw [seqLeft_eq_bind]
  exact h.bind

theorem Reads.discard (h : Reads reader before value after) :
    Reads (discard reader) before () after := h.map _

theorem Refuses.discard (h : Refuses reader text) : Refuses (discard reader) text := h.map _

theorem Reads.filtered {test : α → Bool} (h : Reads reader before value after)
    (hTest : test value) : Reads (filtered reader test) before value after := by
  refine h.bind ?_
  rw [if_pos hTest]
  exact reads_pure _ _

theorem Reads.filtered_refuses {test : α → Bool} (h : Reads reader before value after)
    (hTest : test value = false) : Refuses (Reader.filtered reader test) before := by
  refine h.bind_refuses ?_
  rw [if_neg (by simp [hTest])]
  rfl

theorem Refuses.filtered {test : α → Bool} (h : Refuses reader text) :
    Refuses (filtered reader test) text := h.bind

theorem Refuses.taken (h : Refuses reader text) : Refuses (taken reader) text := by
  rw [Refuses, Reader.taken, show reader _ = _ from h]
  rfl

/-! ## One or the other -/

theorem orElse_apply (reader other : Reader α) (source : Source) :
    (reader <|> other) source = (reader source <|> other source) := rfl

theorem Reads.orElse (h : Reads reader before value after) :
    Reads (reader <|> other) before value after := by
  rw [Reads, orElse_apply, show reader _ = _ from h]
  rfl

theorem Refuses.orElse (h : Refuses reader before) (hOther : Reads other before value after) :
    Reads (reader <|> other) before value after := by
  rw [Reads, orElse_apply, show reader _ = _ from h]
  exact hOther

theorem Refuses.orElse_refuses (h : Refuses reader text) (hOther : Refuses other text) :
    Refuses (reader <|> other) text := by
  rw [Refuses, orElse_apply, show reader _ = _ from h]
  exact hOther

theorem Reads.optional (h : Reads reader before value after) :
    Reads (optional reader) before (some value) after := (h.map some).orElse

theorem Refuses.optional (h : Refuses reader text) : Reads (optional reader) text none text :=
  (h.map some).orElse (reads_pure none text)

/-! ## Characters -/

/-- A text that does not begin with a character of a kind. -/
def Lacks (accept : Char → Bool) (text : List Char) : Prop :=
  ∀ c ∈ text.head?, accept c = false

@[simp] theorem lacks_nil : Lacks accept [] := by simp [Lacks]

@[simp] theorem lacks_cons {c : Char} : Lacks accept (c :: text) ↔ accept c = false := by
  simp [Lacks]

theorem lacks_of_forall (h : ∀ c ∈ text, accept c = false) : Lacks accept text := fun c hMem =>
  h c (List.mem_of_mem_head? hMem)

theorem Lacks.append (hText : ∀ c ∈ text, accept c = false) (hAfter : Lacks accept after) :
    Lacks accept (text ++ after) := by
  cases text with
  | nil => exact hAfter
  | cons c text => exact lacks_cons.mpr (hText c List.mem_cons_self)

theorem lacks_append_of_ne_nil (hForm : text ≠ []) (hText : ∀ c ∈ text, accept c = false)
    (after : List Char) : Lacks accept (text ++ after) := by
  obtain ⟨c, rest, rfl⟩ := List.exists_cons_of_ne_nil hForm
  exact lacks_cons.mpr (hText c List.mem_cons_self)

theorem ne_of_accept {c d : Char} (h : accept c) (hOther : accept d = false) : c ≠ d := by
  rintro rfl
  rw [hOther] at h
  cases h

theorem Lacks.mono {fewer : Char → Bool} (h : Lacks accept text)
    (hFewer : ∀ c, fewer c → accept c) : Lacks fewer text := fun c hMem =>
  Bool.eq_false_iff.mpr fun hAccept => by simpa [hFewer c hAccept] using h c hMem

theorem reads_char {c : Char} (h : accept c) (text : List Char) :
    Reads (char accept) (c :: text) c text := by
  rw [Reads, Source.ofList, char, if_pos h]
  rfl

theorem Lacks.refuses_char (h : Lacks accept text) : Refuses (char accept) text := by
  cases text with
  | nil => rfl
  | cons c text => rw [Refuses, Source.ofList, char, if_neg (by simp [lacks_cons.mp h])]

theorem Reads.of_char {c : Char} (h : Reads (char accept) before c after) :
    before = c :: after ∧ accept c := by
  cases before with
  | nil => cases h
  | cons d text =>
    rw [Reads, Source.ofList, char] at h
    split at h
    · rename_i hAccept
      cases h
      exact ⟨rfl, hAccept⟩
    · cases h

theorem reads_exactly (word text : List Char) : Reads (exactly word) (word ++ text) () text := by
  induction word with
  | nil => exact reads_pure () text
  | cons c word ih => exact (reads_char (decide_eq_true rfl) _).bind ih

theorem refuses_exactly {word : List Char} (h : ¬ word <+: text) : Refuses (exactly word) text := by
  induction word generalizing text with
  | nil => exact absurd List.nil_prefix h
  | cons c word ih =>
    cases text with
    | nil => exact lacks_nil.refuses_char.bind
    | cons d text =>
      by_cases hSame : d = c
      · subst hSame
        refine (reads_char (decide_eq_true rfl) text).bind_refuses (ih fun hPrefix => h ?_)
        exact List.cons_prefix_cons.mpr ⟨rfl, hPrefix⟩
      · exact (Lacks.refuses_char (lacks_cons.mpr (decide_eq_false hSame))).bind

theorem Lacks.refuses_exactly {c : Char} {word : List Char} (h : Lacks (· = c) text) :
    Refuses (exactly (c :: word)) text := h.refuses_char.bind

theorem reads_span {front : List Char} (hFront : ∀ c ∈ front, accept c)
    (hAfter : Lacks accept after) : Reads (span accept) (front ++ after) front after := by
  have hTake : (front ++ after).takeWhile accept = front := by
    rw [List.takeWhile_append_of_pos hFront]
    cases after with
    | nil => simp
    | cons c after => simp [lacks_cons.mp hAfter]
  have hDrop : (front ++ after).dropWhile accept = after := by
    rw [List.dropWhile_append_of_pos hFront]
    cases after with
    | nil => simp
    | cons c after => simp [lacks_cons.mp hAfter]
  exact congrArg some (Prod.ext hTake (Source.eq_ofList hDrop))

theorem reads_blanks (front : List Char) (hFront : ∀ c ∈ front, isBlank c)
    (hAfter : Lacks isBlank after) : Reads blanks (front ++ after) () after :=
  (reads_span hFront hAfter).bind (reads_pure _ _)

theorem Lacks.reads_blanks (h : Lacks isBlank text) : Reads blanks text () text :=
  Reader.reads_blanks [] (by simp) h

/-! ## Repetitions -/

theorem Refuses.many (h : Refuses reader text) : Reads (many reader) text [] text := by
  rw [Reads, Reader.many, show reader _ = _ from h]

/-- Where nothing is taken, nothing is found. -/
theorem Reads.many_nil (h : Reads reader text value text) : Reads (many reader) text [] text := by
  rw [Reads, Reader.many, show reader _ = _ from h]
  exact if_neg (Nat.lt_irrefl _)

theorem Reads.many_cons (h : Reads reader before value middle)
    (hShorter : middle.length < before.length) (hMany : Reads (many reader) middle values after) :
    Reads (many reader) before (value :: values) after := by
  rw [Reads, Reader.many, show reader _ = _ from h]
  refine (if_pos hShorter).trans ?_
  rw [show Reader.many reader _ = _ from hMany]
  rfl

/-- What is written item by item is read item by item, as long as the text after each item is one
that it may stand before, and the reader goes no further than the last. -/
theorem reads_many {items : List β} {form : β → List Char} {found : β → α}
    (MayFollow : List Char → Prop)
    (hItem : ∀ item ∈ items, form item ≠ [] ∧ ∀ after, MayFollow after →
      Reads reader (form item ++ after) (found item) after ∧ MayFollow (form item ++ after))
    (hAfter : MayFollow after) (hEnd : Reads (many reader) after [] after) :
    Reads (many reader) (items.flatMap form ++ after) (items.map found) after ∧
      MayFollow (items.flatMap form ++ after) := by
  induction items with
  | nil => exact ⟨hEnd, hAfter⟩
  | cons item items ih =>
    -- The items behind this one are read first, since they are what it stands before.
    obtain ⟨hForm, hRead⟩ := hItem item List.mem_cons_self
    obtain ⟨hMany, hRest⟩ := ih fun other hMem => hItem other (.tail _ hMem)
    obtain ⟨hFirst, hFront⟩ := hRead _ hRest
    rw [List.flatMap_cons, List.append_assoc]
    refine ⟨hFirst.many_cons ?_ hMany, hFront⟩
    have hPositive := List.length_pos_iff.mpr hForm
    simp only [List.length_append]
    omega

/-- Items that may stand before anything. -/
theorem reads_many_free {items : List β} {form : β → List Char} {found : β → α}
    (hItem : ∀ item ∈ items, form item ≠ [] ∧ ∀ after,
      Reads reader (form item ++ after) (found item) after)
    (hEnd : Refuses reader after) :
    Reads (many reader) (items.flatMap form ++ after) (items.map found) after :=
  (reads_many (fun _ => True) (fun item hMem =>
    ⟨(hItem item hMem).1, fun rest _ => ⟨(hItem item hMem).2 rest, trivial⟩⟩) trivial hEnd.many).1

theorem reads_many_chars {found : Char → α}
    (hChar : ∀ c ∈ text, ∀ after, Reads reader (c :: after) (found c) after)
    (hEnd : Refuses reader after) : Reads (many reader) (text ++ after) (text.map found) after := by
  have hMany : Reads (many reader) (text.flatMap List.singleton ++ after) (text.map found) after :=
    reads_many_free (fun c hMem => ⟨List.cons_ne_nil _ _, hChar c hMem⟩) hEnd
  rwa [show text.flatMap List.singleton = text from List.flatMap_singleton' text] at hMany

theorem Reads.separated {separator : Reader Unit} {first : α}
    (h : Reads reader before first middle)
    (hMany : Reads (many (separator *> reader)) middle values after) :
    Reads (separated reader separator) before (first :: values) after :=
  h.bind (hMany.bind (reads_pure _ _))

end Reader

end CallAudio.Toml
