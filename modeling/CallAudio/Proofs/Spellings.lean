import CallAudio.Kind.Spelling

/-! # What spells a kind

A text spells a word if its characters, fillers apart, stand for the letters of the word one after the
other. A letter is stood for by itself, by its capital and, if it is k, by the Kelvin sign. Nothing
else stands for one: no other character has a letter of ASCII as its small form, wherever in a text it
stands, and U+0130 has one only together with a mark that is none.
-/

namespace CallAudio

def IsLetter (c : Char) : Prop := 'a' ≤ c ∧ c ≤ 'z'

instance (c : Char) : Decidable (IsLetter c) := inferInstanceAs (Decidable (_ ∧ _))

def StandsFor (c letter : Char) : Prop :=
  c = letter ∨ c = letter.toUpper ∨ letter = 'k' ∧ c = '\u212A'

instance (c letter : Char) : Decidable (StandsFor c letter) :=
  inferInstanceAs (Decidable (_ ∨ _ ∨ _))

theorem toNat_of_isLetter {letter : Char} (h : IsLetter letter) :
    0x61 ≤ letter.toNat ∧ letter.toNat ≤ 0x7A := h

/-- What holds of every code point below a bound holds of every character below it. -/
theorem forall_char_lt {bound : Nat} (holds : Char → Prop)
    (h : ∀ point < bound, holds (Char.ofNat point)) {c : Char} (hLess : c.toNat < bound) :
    holds c := by
  have hHolds := h c.toNat hLess
  rwa [Char.ofNat_toNat] at hHolds

theorem forall_letter (holds : Char → Prop)
    (h : ∀ point < 0x80, IsLetter (Char.ofNat point) → holds (Char.ofNat point)) {letter : Char}
    (hLetter : IsLetter letter) : holds letter := by
  have hAscii : letter.toNat < 0x80 := by
    have := toNat_of_isLetter hLetter
    omega
  exact forall_char_lt (fun c => IsLetter c → holds c) h hAscii hLetter

/-! ## Small forms -/

theorem standsFor_toLower {c : Char} (hAscii : c.toNat < 0x80) (hLetter : IsLetter c.toLower) :
    StandsFor c c.toLower := by
  have hAll : ∀ point < 0x80, IsLetter (Char.ofNat point).toLower →
      StandsFor (Char.ofNat point) (Char.ofNat point).toLower := by decide +kernel
  exact forall_char_lt (fun c => IsLetter c.toLower → StandsFor c c.toLower) hAll hAscii hLetter

theorem smallForm_letter {letter : Char} (hLetter : IsLetter letter) :
    smallForm letter = [letter] ∧ smallForm letter.toUpper = [letter] := by
  have hAll : ∀ point < 0x80, IsLetter (Char.ofNat point) →
      smallForm (Char.ofNat point) = [Char.ofNat point] ∧
        smallForm (Char.ofNat point).toUpper = [Char.ofNat point] := by decide +kernel
  exact forall_letter
    (fun letter => smallForm letter = [letter] ∧ smallForm letter.toUpper = [letter]) hAll hLetter

theorem smallForm_of_standsFor {c letter : Char} (hLetter : IsLetter letter)
    (h : StandsFor c letter) : smallForm c = [letter] := by
  rcases h with rfl | rfl | ⟨rfl, rfl⟩
  · exact (smallForm_letter hLetter).1
  · exact (smallForm_letter hLetter).2
  · decide +kernel

/-- Only the Kelvin sign has a small form in ASCII. -/
theorem small_of_mem_letterRuns : ∀ run ∈ letterRuns,
    0x80 ≤ run.small ∨ run = ⟨0x212A, 0x212A, 1, 0x6B⟩ := by decide +kernel

theorem point_of_letter {point : Nat} (h : IsLetter (Char.ofNat point)) : point < 0x80 := by
  obtain ⟨hLeast, hMost⟩ := toNat_of_isLetter h
  by_cases hValid : point.isValidChar
  · have hPoint : (Char.ofNat point).toNat = point := by
      rw [Char.ofNat, dif_pos hValid]
      rfl
    omega
  · have hZero : (Char.ofNat point).toNat = 0 := by
      rw [Char.ofNat, dif_neg hValid]
      rfl
    omega

/-- A small form is one character, or it is a letter with a mark. -/
theorem smallForm_cases (c : Char) :
    (∃ small, smallForm c = [small] ∧ (IsLetter small → StandsFor c small)) ∨
      smallForm c = ['i', '\u0307'] := by
  rw [smallForm]
  split
  · rename_i hAscii
    exact .inl ⟨_, rfl, standsFor_toLower hAscii⟩
  split
  · exact .inr rfl
  split
  · rename_i point hFound
    refine .inl ⟨_, rfl, fun hLetter => ?_⟩
    have hAscii := point_of_letter hLetter
    obtain ⟨run, hMem, hSmall⟩ := List.exists_of_findSome?_eq_some hFound
    rw [LetterRun.small?] at hSmall
    split at hSmall
    · rename_i hIn
      cases hSmall
      rcases small_of_mem_letterRuns run hMem with hFar | rfl
      · omega
      · have hKelvin : c.toNat = 0x212A := by
          simp only at hIn
          omega
        refine .inr (.inr ⟨?_, ?_⟩)
        · rw [hKelvin]
          rfl
        · rw [← Char.ofNat_toNat c, hKelvin]
    · cases hSmall
  · exact .inl ⟨c, rfl, fun _ => .inl rfl⟩

theorem not_isLetter_smallSigma (before after : List Char) :
    ¬ IsLetter (smallSigma before after) := by
  rw [smallSigma]
  split <;> decide

/-- Where a small form begins a word, its character stands for the first letter. -/
theorem smallForm_append_eq_iff {c letter : Char} {rest word : List Char}
    (hLetters : ∀ other ∈ letter :: word, IsLetter other) :
    smallForm c ++ rest = letter :: word ↔ StandsFor c letter ∧ rest = word := by
  constructor
  · intro hEq
    rcases smallForm_cases c with ⟨small, hSmall, hStands⟩ | hMarked
    · rw [hSmall] at hEq
      obtain ⟨rfl, rfl⟩ := List.cons.inj hEq
      exact ⟨hStands (hLetters _ List.mem_cons_self), rfl⟩
    · rw [hMarked] at hEq
      obtain ⟨rfl, rfl⟩ := List.cons.inj hEq
      exact absurd (hLetters '\u0307' (by simp)) (by decide)
  · rintro ⟨hStands, rfl⟩
    rw [smallForm_of_standsFor (hLetters letter List.mem_cons_self) hStands]
    rfl

theorem smallForm_ne_nil (c : Char) : smallForm c ≠ [] := by
  rcases smallForm_cases c with ⟨small, hSmall, _⟩ | hMarked
  · rw [hSmall]
    exact List.cons_ne_nil _ _
  · rw [hMarked]
    exact List.cons_ne_nil _ _

/-- Wherever a character stands, it is taken for a letter only if it stands for it. -/
theorem small_append_eq_iff {before after rest word : List Char} {c letter : Char}
    (hLetters : ∀ other ∈ letter :: word, IsLetter other) :
    (if c = '\u03A3' then [smallSigma before after] else smallForm c) ++ rest = letter :: word ↔
      StandsFor c letter ∧ rest = word := by
  split
  · rename_i hSigma
    have hLetter : IsLetter letter := hLetters letter List.mem_cons_self
    refine ⟨fun hEq => ?_, fun ⟨hStands, _⟩ => ?_⟩
    · obtain ⟨rfl, _⟩ := List.cons.inj hEq
      exact absurd hLetter (not_isLetter_smallSigma before after)
    · have hForm : smallForm '\u03A3' = ['\u03C3'] := by decide +kernel
      rw [← hSigma, smallForm_of_standsFor hLetter hStands] at hForm
      cases hForm
      exact absurd hLetter (by decide)
  · exact smallForm_append_eq_iff hLetters

/-! ## Spellings -/

/-- The characters spell the word: fillers may stand anywhere between the others, which stand for the
letters of the word. -/
inductive Spells : List Char → List Char → Prop
  | done : Spells [] []
  | filler {c : Char} {chars word : List Char} :
    Kind.isFiller c = true → Spells chars word → Spells (c :: chars) word
  | letter {c letter : Char} {chars word : List Char} :
    StandsFor c letter → Spells chars word → Spells (c :: chars) (letter :: word)

theorem not_isFiller_of_standsFor {c letter : Char} (hLetter : IsLetter letter)
    (h : StandsFor c letter) : Kind.isFiller c = false := by
  have hAll : ∀ point < 0x80, IsLetter (Char.ofNat point) →
      Kind.isFiller (Char.ofNat point) = false ∧
        Kind.isFiller (Char.ofNat point).toUpper = false := by decide +kernel
  obtain ⟨hSmall, hCapital⟩ := forall_letter (fun letter =>
    Kind.isFiller letter = false ∧ Kind.isFiller letter.toUpper = false) hAll hLetter
  rcases h with rfl | rfl | ⟨_, rfl⟩
  · exact hSmall
  · exact hCapital
  · decide

/-- What is left of a text without its fillers is a word in small letters just if the text spells it,
whatever stands in front of it. -/
theorem lowercaseAfter_filter_eq_iff {before chars word : List Char}
    (hLetters : ∀ letter ∈ word, IsLetter letter) :
    lowercaseAfter before (chars.filter (!Kind.isFiller ·)) = word ↔ Spells chars word := by
  induction chars generalizing before word with
  | nil =>
    constructor
    · rintro rfl
      exact .done
    · rintro ⟨⟩
      rfl
  | cons c chars ih =>
    cases hFiller : Kind.isFiller c with
    | true =>
      rw [List.filter_cons_of_neg (by simp [hFiller]), ih hLetters]
      refine ⟨.filler hFiller, fun hSpells => ?_⟩
      cases hSpells with
      | filler _ hRest => exact hRest
      | letter hStands _ =>
        rw [not_isFiller_of_standsFor (hLetters _ List.mem_cons_self) hStands] at hFiller
        cases hFiller
    | false =>
      rw [List.filter_cons_of_pos (by simp [hFiller]), lowercaseAfter]
      cases word with
      | nil =>
        refine ⟨fun hEq => ?_, fun hSpells => ?_⟩
        · split at hEq
          · cases hEq
          · exact absurd (List.append_eq_nil_iff.mp hEq).1 (smallForm_ne_nil c)
        · cases hSpells with
          | filler hOther => cases hFiller.symm.trans hOther
      | cons letter word =>
        rw [small_append_eq_iff hLetters, ih fun other hMem => hLetters other (.tail _ hMem)]
        refine ⟨fun ⟨hStands, hRest⟩ => .letter hStands hRest, fun hSpells => ?_⟩
        cases hSpells with
        | filler hOther => cases hFiller.symm.trans hOther
        | letter hStands hRest => exact ⟨hStands, hRest⟩

namespace Kind

theorem isLetter_of_mem_words : ∀ entry ∈ words, ∀ letter ∈ entry.1.toList, IsLetter letter := by
  simp [words, IsLetter]

theorem spelled_eq_iff {text : String} {entry : String × Kind} (hMem : entry ∈ words) :
    entry.1.toList = spelled text ↔ Spells text.toList entry.1.toList := by
  rw [eq_comm, spelled, lowercase, lowercaseAfter_filter_eq_iff (isLetter_of_mem_words entry hMem)]

theorem ofText?_eq_some_iff {text : String} {kind : Kind} :
    ofText? text = some kind ↔ ∃ word, (word, kind) ∈ words ∧ Spells text.toList word.toList := by
  have hUnique : ∀ entry ∈ words, ∀ other ∈ words, entry.1 = other.1 → entry = other := by
    decide
  rw [ofText?, Option.map_eq_some_iff]
  constructor
  · rintro ⟨⟨word, _⟩, hFound, rfl⟩
    have hMem := List.mem_of_find?_eq_some hFound
    have hSpelled := List.find?_some hFound
    exact ⟨word, hMem, (spelled_eq_iff hMem).mp (by simpa using hSpelled)⟩
  · rintro ⟨word, hMem, hSpells⟩
    have hSpelled := (spelled_eq_iff hMem).mpr hSpells
    cases hFound : words.find? (·.1.toList = spelled text) with
    | none =>
      exact absurd hSpelled (by simpa using List.find?_eq_none.mp hFound _ hMem)
    | some entry =>
      have hOther := List.find?_some hFound
      have hSame : entry.1 = word := String.toList_inj.mp (by
        rw [hSpelled]
        simpa using hOther)
      cases hUnique _ (List.mem_of_find?_eq_some hFound) _ hMem hSame
      exact ⟨_, rfl, rfl⟩

/-- A text is taken for a kind just if it spells one of its words, whatever fillers it holds and
however its letters are written, and no other character is taken for a letter. Any other text is
refused and is named as it stands. -/
theorem ofText_exact (text : String) :
    let words : List (String × Kind) :=
      [("bluetoothheadset", bluetoothHeadset), ("bluetooth", bluetoothHeadset),
        ("wiredheadset", wiredHeadset), ("wired", wiredHeadset), ("earpiece", earpiece),
        ("speakerphone", speakerphone), ("speaker", speakerphone)]
    (∀ kind, ofText text = .ok kind ↔
      ∃ word, (word, kind) ∈ words ∧ Spells text.toList word.toList) ∧
    ∀ error, ofText text = .error error ↔
      error = .unknownKind text ∧ ∀ entry ∈ words, ¬ Spells text.toList entry.1.toList := by
  intro words
  have hWords : words = Kind.words := rfl
  rw [hWords]
  cases hRead : ofText? text with
  | some kind =>
    have hOk : ofText text = .ok kind := by rw [ofText, hRead]
    obtain ⟨word, hMem, hSpells⟩ := ofText?_eq_some_iff.mp hRead
    refine ⟨fun other => ?_, fun error => ?_⟩
    · rw [← ofText?_eq_some_iff, hRead, hOk]
      simp
    · rw [hOk]
      exact ⟨nofun, fun ⟨_, hNone⟩ => absurd hSpells (hNone _ hMem)⟩
  | none =>
    have hError : ofText text = .error (.unknownKind text) := by rw [ofText, hRead]
    refine ⟨fun kind => ?_, fun error => ?_⟩
    · rw [← ofText?_eq_some_iff, hRead, hError]
      simp
    · rw [hError, Except.error.injEq]
      refine ⟨fun hSame => ⟨hSame.symm, fun entry hMem hSpells => ?_⟩, fun hSame => hSame.1.symm⟩
      have hSome := ofText?_eq_some_iff.mpr ⟨entry.1, hMem, hSpells⟩
      cases hRead.symm.trans hSome

/-- A Kelvin sign is read as a k, but a capital i with a dot is not read as an i. -/
example : ofText? "\tSpea\u212Aer_PHONE" = some speakerphone ∧ ofText? "w\u0130red" = none := by
  decide +kernel

end Kind

end CallAudio
