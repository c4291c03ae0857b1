import CallAudio.Toml.Document
import CallAudio.Proofs.QuotedTexts

/-! # Written values are read back

Texts, flags, numbers and lists of texts. A value is tried as one kind after the other: a text shows
by its quotes, and what is written for a number is refused as a date and as a float before it is
read as an integer.
-/

namespace CallAudio.Toml.Reader

open Printer

variable {after before text rest : List Char} {accept : Char → Bool} {found : Value} {number : Nat}

theorem Reads.value (h : Reads scalar before found after) (depth : Nat) :
    Reads (value depth) before found after := by
  cases depth with
  | zero => exact h
  | succ depth => exact h.orElse

theorem reads_text (text : String) (hAfter : Ends after) :
    Reads scalar (Printer.text text ++ after) (.string text) after :=
  ((reads_quotedText text hAfter).map Value.string).orElse

theorem reads_flag (on : Bool) (after : List Char) :
    Reads scalar (Printer.flag on ++ after) (.boolean on) after := by
  cases on <;> rfl

/-! ## Numbers -/

/-- A text that begins with digits, possibly none, and goes on with `after`. -/
def Numeral (after text : List Char) : Prop :=
  ∃ digits : List Char, (∀ c ∈ digits, c.isDigit) ∧ text = digits ++ after

theorem Numeral.lacks (h : Numeral after text) (hDigits : ∀ c, c.isDigit → accept c = false)
    (hAfter : Lacks accept after) : Lacks accept text := by
  obtain ⟨digits, hAll, rfl⟩ := h
  exact .append (fun c hMem => hDigits c (hAll c hMem)) hAfter

/-- Reading digits leaves digits, as far as there are any. -/
theorem Numeral.of_decimalNumber {high count value result : Nat} (h : Numeral after text)
    (hAfter : Lacks Char.isDigit after)
    (hReads : Reads (decimalNumber high count value) text result rest) : Numeral after rest := by
  induction count generalizing value text with
  | zero =>
    rw [decimalNumber] at hReads
    split at hReads
    · cases hReads
      exact h
    · cases hReads
  | succ count ih =>
    obtain ⟨c, middle, hChar, hMore⟩ := hReads.of_bind
    obtain ⟨hText, hDigit⟩ := hChar.of_char
    obtain ⟨digits, hAll, hSplit⟩ := h
    rw [hText] at hSplit
    cases digits with
    | nil =>
      rw [List.nil_append] at hSplit
      rw [← hSplit, lacks_cons, hDigit] at hAfter
      cases hAfter
    | cons d digits =>
      obtain ⟨_, rfl⟩ := List.cons.inj hSplit
      exact ih ⟨digits, fun c hMem => hAll c (.tail _ hMem), rfl⟩ hMore

theorem Numeral.refuses_date (h : Numeral after text) (hAfter : Ends after) :
    Refuses date text := by
  have hLacks {c : Char} (hDigit : c.isDigit = false) (hOther : c ∉ ['\n', ',', ']']) {rest}
      (hRest : Numeral after rest) : Lacks (· = c) rest :=
    hRest.lacks (fun _ hIs => decide_eq_false (ne_of_accept hIs hDigit))
      (hAfter.lacks_other hOther)
  have hDigits : Lacks Char.isDigit after := hAfter.lacks (by decide)
  -- A hyphen would have to follow the year, or a colon the hour.
  refine (Refuses.taken (Refuses.orElse_refuses (Refuses.seqRight ?_) ?_)).map _
  · refine refuses_bind fun year rest hYear => ?_
    exact (hLacks rfl (by decide) (h.of_decimalNumber hDigits hYear)).refuses_exactly.bind
  · refine refuses_bind fun hour rest hHour => ?_
    exact (hLacks rfl (by decide) (h.of_decimalNumber hDigits hHour)).refuses_exactly.bind

/-- Written numbers begin with a zero only if they are zero. -/
theorem lacks_zero (hPositive : 0 < number) (after : List Char) :
    Lacks (· = '0') (Nat.toDigits 10 number ++ after) := by
  induction number using Nat.strongRecOn generalizing after with
  | ind number ih =>
    by_cases hSmall : number < 10
    · rw [Nat.toDigits_of_lt_base hSmall]
      exact lacks_cons.mpr (by simp; omega)
    · rw [Nat.toDigits_of_base_le (by decide) (by omega), List.append_assoc]
      exact ih (number / 10) (by omega) (by omega) _

theorem isDigit_of_mem {c : Char} (h : c ∈ Nat.toDigits 10 number) : c.isDigit :=
  Nat.isDigit_of_mem_toDigits (by decide) (by decide) h

theorem numeral_toDigits (number : Nat) (after : List Char) :
    Numeral after (Nat.toDigits 10 number ++ after) :=
  ⟨_, fun _ hMem => isDigit_of_mem hMem, rfl⟩

theorem lacks_toDigits (number : Nat) (after : List Char)
    (hDigits : ∀ c, c.isDigit → accept c = false) :
    Lacks accept (Nat.toDigits 10 number ++ after) :=
  lacks_append_of_ne_nil Nat.toDigits_ne_nil (fun c hMem => hDigits c (isDigit_of_mem hMem)) after

theorem lacks_other {c : Char} (hOther : c.isDigit = false) (number : Nat) (after : List Char) :
    Lacks (· = c) (Nat.toDigits 10 number ++ after) :=
  lacks_toDigits number after fun _ hDigit => decide_eq_false (ne_of_accept hDigit hOther)

theorem reads_digits {digits : List Char} (hForm : digits ≠ []) (hAll : ∀ c ∈ digits, c.isDigit)
    (hAfter : Ends after) : Reads (Reader.digits Char.isDigit) (digits ++ after) digits after := by
  have hNext (c : Char) (hDigit : c.isDigit) (rest : List Char) :
      Reads (optional (exactly ['_']) *> char Char.isDigit) (c :: rest) c rest := by
    have hUnderscore : Lacks (· = '_') (c :: rest) :=
      lacks_cons.mpr (decide_eq_false (ne_of_accept hDigit rfl))
    exact hUnderscore.refuses_exactly.optional.seqRight (reads_char hDigit rest)
  have hEnd : Refuses (optional (exactly ['_']) *> char Char.isDigit) after :=
    (hAfter.lacks_other (by decide)).refuses_exactly.optional.seqRight_refuses
      (hAfter.lacks (by decide)).refuses_char
  cases digits with
  | nil => exact absurd rfl hForm
  | cons c digits =>
    have hMany : Reads (many (optional (exactly ['_']) *> char Char.isDigit)) (digits ++ after)
        (digits.map id) after :=
      reads_many_chars (fun d hMem => hNext d (hAll d (.tail _ hMem))) hEnd
    rw [List.map_id] at hMany
    exact (reads_char (hAll c List.mem_cons_self) _).bind (hMany.bind (reads_pure _ _))

theorem reads_plainDigits (number : Nat) (hAfter : Ends after) :
    Reads plainDigits (Nat.toDigits 10 number ++ after) (Nat.toDigits 10 number) after := by
  rcases Nat.eq_zero_or_pos number with rfl | hPositive
  · have hZero : Reads (exactly ['0'] >>= fun _ => pure ['0']) ('0' :: after) ['0'] after :=
      (reads_exactly ['0'] after).bind (reads_pure _ _)
    exact hZero.orElse
  · refine (lacks_zero hPositive after).refuses_exactly.bind.orElse ?_
    exact reads_digits Nat.toDigits_ne_nil (fun _ hMem => isDigit_of_mem hMem) hAfter

theorem reads_sign (number : Nat) (after : List Char) :
    Reads sign (Nat.toDigits 10 number ++ after) false (Nat.toDigits 10 number ++ after) :=
  (lacks_other rfl number after).refuses_exactly.bind.orElse
    ((lacks_other rfl number after).refuses_exactly.bind.orElse (reads_pure _ _))

theorem refuses_float (number : Nat) (hAfter : Ends after) :
    Refuses float (Nat.toDigits 10 number ++ after) := by
  have hSign := reads_sign number after
  have hFraction : Refuses fraction after :=
    (hAfter.lacks_other (by decide)).refuses_exactly.bind
  have hExponent : Refuses exponent after := (hAfter.lacks (by decide)).refuses_char.bind
  have hDecimal : Refuses decimalFraction (Nat.toDigits 10 number ++ after) :=
    hSign.bind_refuses ((reads_plainDigits number hAfter).bind_refuses
      (hFraction.optional.bind_refuses hExponent.bind))
  have hSpecial : Refuses specialFloat (Nat.toDigits 10 number ++ after) :=
    hSign.bind_refuses ((lacks_other rfl number after).refuses_exactly.orElse_refuses
      (lacks_other rfl number after).refuses_exactly)
  exact (hDecimal.filtered.discard.orElse_refuses hSpecial).taken.map _

theorem refuses_basedInteger {letter : Char} (hLetter : letter.isDigit = false) (base : Nat)
    (hAfter : Lacks (· = letter) after) :
    Refuses (basedInteger letter base) (Nat.toDigits 10 number ++ after) := by
  refine (refuses_exactly fun hPrefix => ?_).bind
  have hAll : ∀ c ∈ Nat.toDigits 10 number, c.isDigit := fun _ hMem => isDigit_of_mem hMem
  have hSome : Nat.toDigits 10 number ≠ [] := Nat.toDigits_ne_nil
  obtain ⟨c, digits, hForm⟩ := List.exists_cons_of_ne_nil hSome
  rw [hForm, List.cons_append] at hPrefix
  rw [hForm] at hAll
  -- The letter would have to follow the first digit, where only digits and `after` are.
  have hLacks : Lacks (· = letter) (digits ++ after) := .append
    (fun d hMem => decide_eq_false (ne_of_accept (hAll d (.tail _ hMem)) hLetter)) hAfter
  obtain ⟨_, rest, hRest⟩ := List.cons_prefix_cons.mp hPrefix
  rw [← hRest] at hLacks
  exact absurd (lacks_cons.mp hLacks) (by simp)

theorem hexValue?_of_isDigit {c : Char} (h : c.isDigit) :
    hexValue? c = some (c.toNat - '0'.toNat) := by rw [hexValue?, if_pos h]

theorem digitsValue_toDigits (number : Nat) : digitsValue 10 (Nat.toDigits 10 number) = number := by
  calc digitsValue 10 (Nat.toDigits 10 number)
    _ = Nat.ofDigitChars 10 (Nat.toDigits 10 number) 0 := by
      rw [digitsValue, Nat.ofDigitChars_eq_foldl]
      refine List.foldl_ext _ _ _ fun value c hMem => ?_
      rw [hexValue?_of_isDigit (isDigit_of_mem hMem), Option.getD_some]
    _ = number := Nat.ofDigitChars_toDigits (by decide) (by decide)

theorem reads_decimalInteger (number : Nat) (hAfter : Ends after) :
    Reads decimalInteger (Nat.toDigits 10 number ++ after) number after := by
  refine (reads_sign number after).bind ((reads_plainDigits number hAfter).bind ?_)
  rw [digitsValue_toDigits]
  exact reads_pure _ _

theorem refuses_quotedText (hDouble : Lacks (· = '"') text) (hSingle : Lacks (· = '\'') text) :
    Refuses quotedText text := by
  refine Refuses.map (.orElse_refuses ?_ (.orElse_refuses ?_ (.orElse_refuses ?_ ?_))) _
  · exact hDouble.refuses_exactly.bind
  · exact hSingle.refuses_exactly.bind
  · exact hDouble.refuses_exactly.bind
  · exact hSingle.refuses_exactly.bind

theorem fits_of_le (h : number ≤ 9223372036854775807) : fits number := by
  rw [fits, Bool.and_eq_true, decide_eq_true_iff, decide_eq_true_iff, minInteger, maxInteger]
  omega

theorem reads_number (hFits : fits number) (hAfter : Ends after) :
    Reads scalar (Nat.toDigits 10 number ++ after) (.integer number) after := by
  have hQuoted : Refuses quotedText (Nat.toDigits 10 number ++ after) :=
    refuses_quotedText (lacks_other rfl number after) (lacks_other rfl number after)
  have hBased {letter : Char} (hLetter : letter.isDigit = false)
      (hOther : letter ∉ ['\n', ',', ']']) (base : Nat) :
      Refuses (basedInteger letter base) (Nat.toDigits 10 number ++ after) :=
    refuses_basedInteger hLetter base (hAfter.lacks_other hOther)
  have hInteger : Reads (basedInteger 'x' 16 <|> basedInteger 'o' 8 <|> basedInteger 'b' 2 <|>
      decimalInteger) (Nat.toDigits 10 number ++ after) number after :=
    (hBased rfl (by decide) 16).orElse ((hBased rfl (by decide) 8).orElse
      ((hBased rfl (by decide) 2).orElse (reads_decimalInteger number hAfter)))
  refine (hQuoted.map _).orElse (((numeral_toDigits number after).refuses_date hAfter).orElse
    ((refuses_float number hAfter).orElse ?_))
  exact ((hInteger.filtered hFits).map Value.integer).orElse

/-! ## Lists of texts -/

theorem reads_space (front : List Char) (hFront : ∀ c ∈ front, isBlank c ∨ c = '\n')
    (hAfter : Lacks (fun c => isBlank c || c = '\n' || c = '\r' || c = '#') after) :
    Reads space (front ++ after) () after := by
  have hItem : ∀ c ∈ front, ∀ rest,
      Reads (discard (char isBlank) <|> newline <|> comment) (c :: rest) () rest := by
    intro c hMem rest
    rcases hFront c hMem with hBlank | rfl
    · exact (reads_char hBlank rest).discard.orElse
    · rfl
  have hEnd : Refuses (discard (char isBlank) <|> newline <|> comment) after := by
    refine Refuses.orElse_refuses ?_ (Refuses.orElse_refuses ?_ ?_)
    · exact (hAfter.mono (by simp +contextual)).refuses_char.discard
    · exact refuses_newline (hAfter.mono (by simp +contextual))
    · exact (hAfter.mono (by simp +contextual)).refuses_exactly.bind
  exact (reads_many_chars hItem hEnd).bind (reads_pure _ _)

theorem reads_array {item : Reader Value} {values : List Value} {front last : List Char}
    {comma : Option Unit} (hFront : Reads space before () front)
    (hItems : Reads (separated (item <* space) (exactly [','] *> space)) front values last)
    (hComma : Reads (optional (exactly [','] *> space)) last comma (']' :: after)) :
    Reads (array item) ('[' :: before) (.array values) after :=
  (reads_exactly ['['] _).bind (hFront.bind (hItems.optional.bind (hComma.bind
    ((reads_exactly [']'] after).bind (reads_pure _ _)))))

theorem reads_array_nil {item : Reader Value} (h : Refuses item (']' :: after)) :
    Reads (array item) ('[' :: ']' :: after) (.array []) after := by
  have hSpace : Reads space (']' :: after) () (']' :: after) :=
    reads_space [] (by simp) (lacks_cons.mpr rfl)
  have hNone : Refuses (separated (item <* space) (exactly [','] *> space)) (']' :: after) :=
    h.seqLeft.bind
  exact (reads_exactly ['['] _).bind (hSpace.bind (hNone.optional.bind
    ((reads_exactly [']'] after).bind (reads_pure _ _))))

theorem refuses_value (depth : Nat) (after : List Char) : Refuses (value depth) (']' :: after) := by
  cases depth <;> rfl

theorem lacks_text (text : String) (h : accept '"' = false ∧ accept '\'' = false)
    (after : List Char) : Lacks accept (Printer.text text ++ after) := by
  rw [Printer.text]
  split <;> exact lacks_cons.mpr (by simp [h])

theorem reads_item (depth : Nat) (item : String) {c : Char} (hAfter : c = ',' ∨ c = ']')
    (after : List Char) :
    Reads (value depth <* space) (Printer.text item ++ c :: after) (.string item) (c :: after) := by
  have hEnds : Ends (c :: after) := by
    rcases hAfter with rfl | rfl
    · exact .item
    · exact .items
  have hSpace : Reads space (c :: after) () (c :: after) :=
    reads_space [] (by simp) (lacks_cons.mpr (by rcases hAfter with rfl | rfl <;> rfl))
  exact ((reads_text item hEnds).value depth).seqLeft hSpace

theorem reads_separator (front : List Char) (hFront : ∀ c ∈ front, isBlank c ∨ c = '\n')
    (hAfter : Lacks (fun c => isBlank c || c = '\n' || c = '\r' || c = '#') after) :
    Reads (exactly [','] *> space) (',' :: (front ++ after)) () after :=
  (reads_exactly [','] _).seqRight (reads_space front hFront hAfter)

def nextItem (item : String) : List Char :=
  [',', '\n'] ++ ([' ', ' ', ' ', ' '] ++ Printer.text item)

/-- The lines of a list of texts, cut behind the texts and not behind the line breaks. -/
theorem flatMap_lines (first : String) (items : List String) :
    (first :: items).flatMap
        (fun item => [' ', ' ', ' ', ' '] ++ Printer.text item ++ [',', '\n']) =
      [' ', ' ', ' ', ' '] ++ (Printer.text first ++ (items.flatMap nextItem ++ [',', '\n'])) := by
  induction items generalizing first with
  | nil => simp
  | cons second items ih =>
    rw [List.flatMap_cons, ih second]
    simp [nextItem]

theorem reads_nextItem (depth : Nat) (item : String) (rest : List Char) :
    Reads ((exactly [','] *> space) *> (value depth <* space)) (nextItem item ++ ',' :: rest)
      (.string item) (',' :: rest) := by
  have hSeparator : Reads (exactly [','] *> space)
      (',' :: (['\n', ' ', ' ', ' ', ' '] ++ (Printer.text item ++ ',' :: rest))) ()
      (Printer.text item ++ ',' :: rest) :=
    reads_separator _ (by simp [isBlank]) (lacks_text item ⟨rfl, rfl⟩ _)
  exact hSeparator.seqRight (reads_item depth item (.inl rfl) rest)

theorem reads_several (first : String) (items : List String) (depth : Nat) (after : List Char) :
    Reads (array (value depth))
      ('[' :: '\n' :: ((first :: items).flatMap
        (fun item => [' ', ' ', ' ', ' '] ++ Printer.text item ++ [',', '\n']) ++ ']' :: after))
      (.array ((first :: items).map .string)) after := by
  have hLast : Reads (exactly [','] *> space) (',' :: '\n' :: ']' :: after) () (']' :: after) :=
    reads_separator ['\n'] (by simp) (lacks_cons.mpr rfl)
  -- The last comma is a separator as well, but no text comes after it.
  have hEnd : Reads (many ((exactly [','] *> space) *> (value depth <* space)))
      (',' :: '\n' :: ']' :: after) [] (',' :: '\n' :: ']' :: after) :=
    (hLast.seqRight_refuses (refuses_value depth after).seqLeft).many
  have hNext : ∀ item ∈ items, nextItem item ≠ [] ∧ ∀ after, (∃ rest, after = ',' :: rest) →
      Reads ((exactly [','] *> space) *> (value depth <* space)) (nextItem item ++ after)
        (.string item) after ∧ ∃ rest, nextItem item ++ after = ',' :: rest := by
    rintro item -
    refine ⟨List.cons_ne_nil _ _, ?_⟩
    rintro _ ⟨rest, rfl⟩
    exact ⟨reads_nextItem depth item rest, _, rfl⟩
  obtain ⟨hItems, rest, hRest⟩ :=
    reads_many (fun text => ∃ rest, text = ',' :: rest) hNext ⟨_, rfl⟩ hEnd
  rw [flatMap_lines]
  simp only [List.append_assoc, List.cons_append, List.nil_append]
  rw [hRest] at hItems ⊢
  have hFront : Reads space (['\n', ' ', ' ', ' ', ' '] ++ (Printer.text first ++ ',' :: rest)) ()
      (Printer.text first ++ ',' :: rest) :=
    reads_space _ (by simp [isBlank]) (lacks_text first ⟨rfl, rfl⟩ _)
  have hFirst := reads_item depth first (.inl rfl) rest
  exact reads_array hFront (hFirst.separated hItems) hLast.optional

theorem reads_texts (items : List String) (depth : Nat) (after : List Char) :
    Reads (value (depth + 1)) (Printer.texts items ++ after) (.array (items.map .string))
      after := by
  have hArray : Reads (array (value depth)) (Printer.texts items ++ after)
      (.array (items.map .string)) after := by
    match items with
    | [] => exact reads_array_nil (refuses_value depth after)
    | [item] =>
      have hSpace : Reads space (Printer.text item ++ ']' :: after) () _ :=
        reads_space [] (by simp) (lacks_text item ⟨rfl, rfl⟩ _)
      have hNoComma : Refuses (exactly [','] *> space) (']' :: after) := rfl
      simp only [Printer.texts, List.append_assoc, List.cons_append, List.nil_append]
      exact reads_array hSpace ((reads_item depth item (.inr rfl) after).separated
        hNoComma.seqRight.many) hNoComma.optional
    | first :: second :: items =>
      simp only [Printer.texts, List.append_assoc, List.cons_append, List.nil_append]
      exact reads_several first (second :: items) depth after
  refine Refuses.orElse ?_ hArray.orElse
  match items with
  | [] => rfl
  | [item] => rfl
  | first :: second :: items => rfl

end CallAudio.Toml.Reader
