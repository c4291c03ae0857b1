import CallAudio.Toml.Printer
import CallAudio.Proofs.Readings

/-! # Written texts are read back

Whichever quotes a text is written in, reading it finds the text. Between single quotes characters
stand for themselves, and between three quotes of either kind the runs of quotes are told apart from
the end by their length, which is at most two before it.
-/

namespace CallAudio.Toml

namespace Reader

open Printer

variable {after text form : List Char} {quote : Char} {piece : Reader (List Char)} {run : Nat}

inductive Ends : List Char → Prop
  | line {rest : List Char} : Ends ('\n' :: rest)
  | item {rest : List Char} : Ends (',' :: rest)
  | items {rest : List Char} : Ends (']' :: rest)

theorem Ends.lacks {accept : Char → Bool} (h : Ends after)
    (hNone : accept '\n' = false ∧ accept ',' = false ∧ accept ']' = false) :
    Lacks accept after := by
  obtain ⟨hLine, hItem, hItems⟩ := hNone
  cases h with
  | line => exact lacks_cons.mpr hLine
  | item => exact lacks_cons.mpr hItem
  | items => exact lacks_cons.mpr hItems

theorem Ends.lacks_other {c : Char} (h : Ends after) (hOther : c ∉ ['\n', ',', ']']) :
    Lacks (· = c) after := by
  simp only [List.mem_cons, List.not_mem_nil, or_false, not_or] at hOther
  obtain ⟨hLine, hItem, hItems⟩ := hOther
  exact h.lacks ⟨decide_eq_false (Ne.symm hLine), decide_eq_false (Ne.symm hItem),
    decide_eq_false (Ne.symm hItems)⟩

/-! ## Escapes -/

theorem hexValue?_hexDigit {digit : Nat} (h : digit < 16) :
    hexValue? (hexDigit digit) = some digit := by
  revert digit
  decide

theorem reads_hexNumber (digits : List Nat) (hDigits : ∀ digit ∈ digits, digit < 16) (value : Nat)
    (after : List Char) :
    Reads (hexNumber digits.length value) (digits.map hexDigit ++ after)
      (digits.foldl (fun value digit => 16 * value + digit) value) after := by
  induction digits generalizing value with
  | nil => exact reads_pure _ _
  | cons digit digits ih =>
    have hValue := hexValue?_hexDigit (hDigits digit List.mem_cons_self)
    refine (reads_char (by rw [hValue]; rfl) _).bind ?_
    rw [hValue]
    exact ih (fun other hMem => hDigits other (.tail _ hMem)) _

theorem toNat_lt_of_needsEscape {c : Char} (h : needsEscape c) : c.toNat < 0x80 := by
  simp only [needsEscape, Bool.or_eq_true, Bool.and_eq_true, decide_eq_true_eq] at h
  rcases h with ⟨⟨hLess, _⟩, _⟩ | rfl
  · exact Nat.lt_trans hLess (by decide)
  · decide

theorem isCommentChar_of_not_needsEscape {c : Char} (h : needsEscape c = false) (hLine : c ≠ '\n') :
    isCommentChar c := by
  simp only [needsEscape, Bool.or_eq_false_iff, Bool.and_eq_false_iff, decide_eq_false_iff_not,
    not_not, Char.not_lt] at h
  simp only [isCommentChar, Bool.or_eq_true, Bool.and_eq_true, decide_eq_true_eq]
  obtain ⟨(hLeast | hTab) | hFeed, hDelete⟩ := h
  · exact .inr ⟨hLeast, hDelete⟩
  · exact .inl hTab
  · exact absurd hFeed hLine

/-- The letters of the short escapes. -/
theorem lookup_escapes : ∀ entry ∈ escapes,
    escapes.lookup entry.1 = some entry.2 ∧ entry.1 ∉ [' ', '\t', '\n', '\r'] := by decide

theorem reads_escape_letter {letter c : Char} (h : (letter, c) ∈ escapes) (after : List Char) :
    Reads escape ('\\' :: letter :: after) c after := by
  refine (reads_exactly ['\\'] _).bind ((reads_char rfl _).bind ?_)
  rw [(lookup_escapes _ h).1]
  exact reads_pure _ _

theorem reads_escape_number {c : Char} (h : c.toNat < 0x100) (after : List Char) :
    Reads escape (['\\', 'u', '0', '0', hexDigit (c.toNat / 16), hexDigit (c.toNat % 16)] ++ after)
      c after := by
  have hNumber : Reads (hexNumber 4 0)
      (['0', '0', hexDigit (c.toNat / 16), hexDigit (c.toNat % 16)] ++ after) c.toNat after := by
    have hReads := reads_hexNumber [0, 0, c.toNat / 16, c.toNat % 16] (by simp; omega) 0 after
    simp only [List.foldl_cons, List.foldl_nil, Nat.mul_zero, Nat.add_zero, Nat.zero_add,
      Nat.div_add_mod] at hReads
    exact hReads
  refine (reads_exactly ['\\'] _).bind ((reads_char rfl _).bind (hNumber.bind ?_))
  rw [if_pos (show c.toNat.isValidChar from c.valid), Char.ofNat_toNat]
  exact reads_pure _ _

/-- The form of a character between double quotes is the character itself, or an escape whose letter
cannot be taken for the end of a line. -/
theorem escaped_cases (c : Char) :
    escaped c = [c] ∧ isBasicChar c ∨
      ∃ letter rest, escaped c = '\\' :: letter :: rest ∧ letter ∉ [' ', '\t', '\n', '\r'] ∧
        ∀ after, Reads escape (escaped c ++ after) c after := by
  rw [escaped]
  split
  · rename_i letter meant hFound
    obtain rfl : meant = c := by simpa using List.find?_some hFound
    have hMem := List.mem_of_find?_eq_some hFound
    exact .inr ⟨letter, [], rfl, (lookup_escapes _ hMem).2, reads_escape_letter hMem⟩
  · rename_i hNone
    split
    · rename_i hEscape
      exact .inr ⟨'u', _, rfl, by decide, reads_escape_number (by
        have := toNat_lt_of_needsEscape hEscape
        omega)⟩
    · rename_i hPlain
      have hOther : ∀ entry ∈ escapes, entry.2 ≠ c := by simpa using hNone
      have hComment : isCommentChar c := isCommentChar_of_not_needsEscape (by simpa using hPlain)
        (hOther ('n', '\n') (by decide)).symm
      refine .inl ⟨rfl, ?_⟩
      simp [isBasicChar, hComment, (hOther ('"', '"') (by decide)).symm,
        (hOther ('\\', '\\') (by decide)).symm]

/-- What stands for a character begins neither with a quote nor with a line break. -/
theorem escaped_eq_cons (c : Char) :
    ∃ first more, escaped c = first :: more ∧ first ≠ '"' ∧ first ≠ '\n' ∧ first ≠ '\r' := by
  rcases escaped_cases c with ⟨hForm, hBasic⟩ | ⟨letter, rest, hForm, _⟩
  · exact ⟨c, [], hForm, ne_of_accept hBasic rfl, ne_of_accept hBasic rfl, ne_of_accept hBasic rfl⟩
  · exact ⟨'\\', letter :: rest, hForm, by decide⟩

theorem escaped_ne_nil (c : Char) : escaped c ≠ [] := by
  obtain ⟨first, more, hForm, _⟩ := escaped_eq_cons c
  rw [hForm]
  exact List.cons_ne_nil _ _

/-! ## Between one pair of quotes -/

theorem reads_basicChar (c : Char) (after : List Char) :
    Reads (char isBasicChar <|> escape) (escaped c ++ after) c after := by
  rcases escaped_cases c with ⟨hForm, hBasic⟩ | ⟨letter, rest, hForm, _, hReads⟩
  · rw [hForm]
    exact (reads_char hBasic after).orElse
  · have hRefuses : Refuses (char isBasicChar) (escaped c ++ after) := by
      rw [hForm]
      exact Lacks.refuses_char (lacks_cons.mpr rfl)
    exact hRefuses.orElse (hReads after)

theorem reads_basicText (text after : List Char) :
    Reads basicText ('"' :: (text.flatMap escaped ++ '"' :: after)) text after := by
  have hMany : Reads (many (char isBasicChar <|> escape))
      (text.flatMap escaped ++ '"' :: after) (text.map id) ('"' :: after) :=
    reads_many_free (fun c _ => ⟨escaped_ne_nil c, reads_basicChar c⟩) rfl
  rw [List.map_id] at hMany
  exact (reads_exactly ['"'] _).bind (hMany.bind ((reads_exactly ['"'] after).bind
    (reads_pure _ _)))

theorem reads_literalText (hText : ∀ c ∈ text, isLiteralChar c) (after : List Char) :
    Reads literalText ('\'' :: (text ++ '\'' :: after)) text after :=
  (reads_exactly ['\''] _).bind ((reads_span hText (lacks_cons.mpr rfl)).bind
    ((reads_exactly ['\''] after).bind (reads_pure _ _)))

/-! ## Between three quotes -/

theorem reads_quoteRun {low high : Nat} (hLow : low ≤ run) (hHigh : run ≤ high)
    (hAfter : Lacks (· = quote) after) :
    Reads (quoteRun quote low high) (List.replicate run quote ++ after)
      (List.replicate run quote) after := by
  refine (reads_span (fun c hMem => ?_) hAfter).filtered ?_
  · simp [List.eq_of_mem_replicate hMem]
  · simp [hLow, hHigh]

theorem refuses_quoteRun {low high : Nat} (hOut : run < low ∨ high < run)
    (hAfter : Lacks (· = quote) after) :
    Refuses (quoteRun quote low high) (List.replicate run quote ++ after) := by
  refine (reads_span (fun c hMem => ?_) hAfter).filtered_refuses ?_
  · simp [List.eq_of_mem_replicate hMem]
  · simp only [List.length_replicate, Bool.and_eq_false_iff, decide_eq_false_iff_not]
    omega

/-- `form` stands for `text` between three quotes, behind `run` quotes that belong to the text. -/
inductive Block (quote : Char) (piece : Reader (List Char)) : Nat → List Char → List Char → Prop
  | done {run : Nat} : run ≤ 2 → Block quote piece run [] []
  | quote {run : Nat} {form text : List Char} :
    Block quote piece (run + 1) form text → Block quote piece run (quote :: form) (quote :: text)
  | piece {run : Nat} {c : Char} {form text : List Char} (first : Char) (more : List Char) :
    run ≤ 2 → first ≠ quote → (∀ after, Reads piece (first :: more ++ after) [c] after) →
    Block quote piece 0 form text → Block quote piece run (first :: more ++ form) (c :: text)

/-- A run of quotes that is too short to end the text is a piece of it. -/
theorem reads_run {pieces : List (List Char)} {middle : List Char} (hRun : run ≤ 2)
    (hPiece : ∀ after, Refuses piece (quote :: after)) (hMiddle : Lacks (· = quote) middle)
    (h : Reads (many (piece <|> quoteRun quote 1 2)) middle pieces after) :
    ∃ all, all.flatten = List.replicate run quote ++ pieces.flatten ∧
      Reads (many (piece <|> quoteRun quote 1 2)) (List.replicate run quote ++ middle) all
        after := by
  cases run with
  | zero => exact ⟨pieces, rfl, h⟩
  | succ run =>
    refine ⟨List.replicate (run + 1) quote :: pieces, rfl, Reads.many_cons ?_ ?_ h⟩
    · exact (hPiece _).orElse (reads_quoteRun (by omega) hRun hMiddle)
    · simp only [List.length_append, List.length_replicate]
      omega

theorem Block.reads_pieces (h : Block quote piece run form text)
    (hPiece : ∀ after, Refuses piece (quote :: after)) (hAfter : Lacks (· = quote) after) :
    ∃ pieces last, last ≤ 2 ∧
      pieces.flatten ++ List.replicate last quote = List.replicate run quote ++ text ∧
      Reads (many (piece <|> quoteRun quote 1 2))
        (List.replicate run quote ++ (form ++ (List.replicate 3 quote ++ after))) pieces
        (List.replicate (last + 3) quote ++ after) := by
  -- A run of quotes is one piece, so it is carried along until it is known how it ends.
  induction h with
  | @done run hRun =>
    -- The run goes on into the quotes at the end, which makes it too long for a piece.
    refine ⟨[], run, hRun, (List.append_nil _).symm, ?_⟩
    rw [List.nil_append, ← List.append_assoc, List.replicate_append_replicate]
    have hLong : Refuses (quoteRun quote 1 2) (List.replicate (run + 3) quote ++ after) :=
      refuses_quoteRun (.inr (by omega)) hAfter
    exact Refuses.many ((hPiece _).orElse_refuses hLong)
  | @quote run form text _ ih =>
    obtain ⟨pieces, last, hLast, hText, hReads⟩ := ih
    refine ⟨pieces, last, hLast, ?_, ?_⟩
    · rw [hText, List.replicate_succ', List.append_assoc]
      rfl
    · rw [List.replicate_succ', List.append_assoc] at hReads
      exact hReads
  | @piece run c form text first more hRun hFirst hForm _ ih =>
    obtain ⟨pieces, last, hLast, hText, hReads⟩ := ih
    have hMany : Reads (many (piece <|> quoteRun quote 1 2))
        (first :: more ++ (form ++ (List.replicate 3 quote ++ after))) ([c] :: pieces)
        (List.replicate (last + 3) quote ++ after) := by
      refine Reads.many_cons (hForm _).orElse ?_ hReads
      simp only [List.cons_append, List.length_cons, List.length_append]
      omega
    obtain ⟨all, hAll, hReads⟩ :=
      reads_run hRun hPiece (lacks_cons.mpr (decide_eq_false hFirst)) hMany
    refine ⟨all, last, hLast, ?_, by rwa [List.append_assoc]⟩
    have hEnd : pieces.flatten ++ List.replicate last quote = text := hText
    rw [hAll, ← hEnd, List.append_assoc]
    rfl

theorem refuses_newline (h : Lacks (fun c => c = '\n' || c = '\r') text) :
    Refuses newline text :=
  (h.mono (by simp)).refuses_exactly.orElse_refuses (h.mono (by simp)).refuses_exactly

/-- The line break in front of a text of several lines is taken away, and nothing of any other. -/
theorem reads_opening {rest : List Char}
    (hRest : '\n' ∉ text → Lacks (fun c => c = '\n' || c = '\r') rest) :
    ∃ found, Reads (optional newline) (opening text ++ rest) found rest := by
  rw [opening]
  split
  · exact ⟨_, (reads_exactly ['\n'] rest).orElse.optional⟩
  · rename_i hLine
    exact ⟨_, (refuses_newline (hRest hLine)).optional⟩

theorem Block.reads (h : Block quote piece 0 form text)
    (hPiece : ∀ after, Refuses piece (quote :: after)) (hAfter : Lacks (· = quote) after)
    (hForm : '\n' ∉ text →
      Lacks (fun c => c = '\n' || c = '\r') (form ++ (List.replicate 3 quote ++ after))) :
    Reads (blockText quote piece)
      (List.replicate 3 quote ++ (opening text ++ (form ++ (List.replicate 3 quote ++ after))))
      text after := by
  obtain ⟨found, hOpening⟩ := reads_opening hForm
  obtain ⟨pieces, last, hLast, hText, hPieces⟩ := h.reads_pieces hPiece hAfter
  have hClosing : Reads (quoteRun quote 3 5) (List.replicate (last + 3) quote ++ after)
      (List.replicate (last + 3) quote) after := reads_quoteRun (by omega) (by omega) hAfter
  refine (reads_exactly [quote, quote, quote] _).bind (hOpening.bind (hPieces.bind
    (hClosing.bind ?_)))
  rw [List.drop_replicate, Nat.add_sub_cancel, hText]
  exact reads_pure _ _

/-! ## Between three double quotes -/

def basicPiece : Reader (List Char) :=
  List.singleton <$> char isBasicChar <|> innerNewline <|> continuation <|>
    List.singleton <$> escape

theorem refuses_basicPiece (after : List Char) : Refuses basicPiece ('"' :: after) := rfl

theorem reads_basicPiece_line (after : List Char) :
    Reads basicPiece ('\n' :: after) ['\n'] after := rfl

theorem reads_basicPiece (c : Char) (after : List Char) :
    Reads basicPiece (escaped c ++ after) [c] after := by
  rcases escaped_cases c with ⟨hForm, hBasic⟩ | ⟨letter, rest, hForm, hLetter, hReads⟩
  · rw [hForm]
    exact ((reads_char hBasic after).map List.singleton).orElse
  · -- A backslash with blanks up to the end of its line would be skipped.
    have hContinuation : Refuses continuation ('\\' :: letter :: (rest ++ after)) := by
      simp only [List.mem_cons, not_or] at hLetter
      refine (reads_exactly ['\\'] _).bind_refuses ((Lacks.reads_blanks ?_).bind_refuses ?_)
      · simp [isBlank, hLetter]
      · exact (refuses_newline (by simp [hLetter])).bind
    have hEscape := (hReads after).map List.singleton
    rw [hForm] at hEscape ⊢
    refine Refuses.orElse ?_ (Refuses.orElse ?_ (hContinuation.orElse hEscape))
    · exact (Lacks.refuses_char (lacks_cons.mpr rfl)).map _
    · exact (refuses_newline (lacks_cons.mpr rfl)).bind

theorem block_escapedBlock (text : List Char) (hRun : run ≤ 2) :
    Block '"' basicPiece run (escapedBlock run text) text := by
  induction text generalizing run with
  | nil => exact .done hRun
  | cons c text ih =>
    have hRest : Block '"' basicPiece 0 (escapedBlock 0 text) text := ih (Nat.zero_le _)
    rw [escapedBlock]
    split
    · rename_i hQuote
      subst hQuote
      split
      · exact .piece '\\' ['"'] hRun (by decide) (reads_basicPiece '"') hRest
      · exact .quote (ih (by omega))
    · rename_i hOther
      split
      · rename_i hLine
        subst hLine
        exact .piece '\n' [] hRun hOther reads_basicPiece_line hRest
      · obtain ⟨first, more, hForm, hFirst, _⟩ := escaped_eq_cons c
        have hReads := reads_basicPiece c
        rw [hForm] at hReads ⊢
        exact .piece first more hRun hFirst hReads hRest

/-! ## Between three single quotes -/

def literalPiece : Reader (List Char) :=
  List.singleton <$> char isLiteralChar <|> innerNewline

theorem refuses_literalPiece (after : List Char) : Refuses literalPiece ('\'' :: after) := rfl

theorem reads_literalPiece {c : Char} (h : isCommentChar c ∨ c = '\n') (hQuote : c ≠ '\'')
    (after : List Char) : Reads literalPiece (c :: after) [c] after := by
  rcases h with hComment | rfl
  · exact ((reads_char (by simp [isLiteralChar, hComment, hQuote]) after).map List.singleton).orElse
  · rfl

theorem hasTriple_of_append (front : List Char) (h : hasTriple quote (front ++ text) = false) :
    hasTriple quote text = false := by
  induction front with
  | nil => exact h
  | cons c front ih =>
    refine ih ?_
    cases hRest : front ++ text with
    | nil => rfl
    | cons a rest =>
      cases rest with
      | nil => rfl
      | cons b rest =>
        rw [List.cons_append, hRest, hasTriple, Bool.or_eq_false_iff] at h
        exact h.2

theorem block_literal (hText : ∀ c ∈ text, isCommentChar c ∨ c = '\n')
    (hTriple : hasTriple '\'' (List.replicate run '\'' ++ text) = false) (hRun : run ≤ 2) :
    Block '\'' literalPiece run text text := by
  induction text generalizing run with
  | nil => exact .done hRun
  | cons c text ih =>
    have hRest : ∀ other ∈ text, isCommentChar other ∨ other = '\n' :=
      fun other hMem => hText other (.tail _ hMem)
    by_cases hQuote : c = '\''
    · subst hQuote
      have hLonger : hasTriple '\'' (List.replicate (run + 1) '\'' ++ text) = false := by
        rw [List.replicate_succ', List.append_assoc]
        exact hTriple
      refine .quote (ih hRest hLonger ?_)
      -- Three quotes in a row are what the text does not have.
      have hShort : run ≠ 2 := by
        rintro rfl
        simp [hasTriple] at hTriple
      omega
    · have hReads := reads_literalPiece (hText c List.mem_cons_self) hQuote
      have hEnd : hasTriple '\'' text = false :=
        hasTriple_of_append (List.replicate run '\'' ++ [c]) (by simpa using hTriple)
      have hBlock : Block '\'' literalPiece 0 text text := ih hRest hEnd (Nat.zero_le _)
      exact .piece c [] hRun hQuote hReads hBlock

/-! ## Whichever quotes are chosen -/

theorem isCommentChar_of_free (hFree : (!text.any needsEscape) = true) :
    ∀ c ∈ text, isCommentChar c ∨ c = '\n' := by
  intro c hMem
  by_cases hLine : c = '\n'
  · exact .inr hLine
  · have hPlain : needsEscape c = false := by
      rw [Bool.not_eq_true', List.any_eq_false] at hFree
      simpa using hFree c hMem
    exact .inl (isCommentChar_of_not_needsEscape hPlain hLine)

theorem isLiteralChar_of_quoting (h : quoting text = .literal) : ∀ c ∈ text, isLiteralChar c := by
  simp only [quoting] at h
  split_ifs at h with _ hLiteral
  simp only [Bool.and_eq_true, decide_eq_true_eq] at hLiteral
  obtain ⟨⟨hFree, hLine⟩, hQuote⟩ := hLiteral
  intro c hMem
  have hComment := (isCommentChar_of_free hFree c hMem).resolve_right fun hSame =>
    absurd (hSame ▸ hMem) (by simpa using hLine)
  have hOther : c ≠ '\'' := fun hSame => hQuote (hSame ▸ hMem)
  simp [isLiteralChar, hComment, hOther]

theorem literal_of_quoting_block (h : quoting text = .literalBlock) :
    (∀ c ∈ text, isCommentChar c ∨ c = '\n') ∧ hasTriple '\'' text = false := by
  simp only [quoting] at h
  split_ifs at h with _ _ _ hBlock
  simp only [Bool.and_eq_true, Bool.not_eq_true'] at hBlock
  exact ⟨isCommentChar_of_free (by simp [hBlock.1]), hBlock.2⟩

theorem refuses_block (hMany : ¬ List.replicate 3 quote <+: text) :
    Refuses (blockText quote piece) text := (refuses_exactly hMany).bind

theorem lacks_escapedBlock {rest : List Char} (hText : '\n' ∉ text) :
    Lacks (fun c => c = '\n' || c = '\r') (escapedBlock 0 text ++ ('"' :: rest)) := by
  cases text with
  | nil => exact lacks_cons.mpr rfl
  | cons c text =>
    have hLine : c ≠ '\n' := fun hSame => hText (hSame ▸ List.mem_cons_self)
    by_cases hQuote : c = '"'
    · subst hQuote
      exact lacks_cons.mpr rfl
    · rw [escapedBlock, if_neg hQuote, if_neg hLine]
      obtain ⟨first, more, hForm, _, hFeed, hReturn⟩ := escaped_eq_cons c
      rw [hForm]
      exact lacks_cons.mpr (by simp [hFeed, hReturn])

theorem lacks_literal {rest : List Char} (hText : ∀ c ∈ text, isCommentChar c ∨ c = '\n')
    (hLine : '\n' ∉ text) :
    Lacks (fun c => c = '\n' || c = '\r') (text ++ ('\'' :: rest)) := by
  refine .append (fun c hMem => ?_) (lacks_cons.mpr rfl)
  have hComment : isCommentChar c :=
    (hText c hMem).resolve_right fun hSame => hLine (hSame ▸ hMem)
  have hFeed : c ≠ '\n' := ne_of_accept hComment rfl
  have hReturn : c ≠ '\r' := ne_of_accept hComment rfl
  simp [hFeed, hReturn]

/-- Two quotes around a text are not three in a row. -/
theorem not_three_quotes (hText : Lacks (· = quote) text) (hAfter : Lacks (· = quote) after) :
    ¬ List.replicate 3 quote <+: quote :: (text ++ quote :: after) := by
  cases text with
  | nil =>
    cases after with
    | nil => simp [List.replicate]
    | cons c after =>
      have hOther : c ≠ quote := of_decide_eq_false (lacks_cons.mp hAfter)
      simp [List.replicate, hOther.symm]
  | cons c text =>
    have hOther : c ≠ quote := of_decide_eq_false (lacks_cons.mp hText)
    simp [List.replicate, hOther.symm]

theorem lacks_escaped (text : List Char) : Lacks (· = '"') (text.flatMap escaped) := by
  cases text with
  | nil => exact lacks_nil
  | cons c text =>
    obtain ⟨first, more, hForm, hQuote, _⟩ := escaped_eq_cons c
    rw [List.flatMap_cons, hForm]
    exact lacks_cons.mpr (decide_eq_false hQuote)

theorem reads_quotedText (text : String) (hAfter : Ends after) :
    Reads quotedText (Printer.text text ++ after) text after := by
  have hBasic : Lacks (· = '"') after := hAfter.lacks_other (by decide)
  have hLiteral : Lacks (· = '\'') after := hAfter.lacks_other (by decide)
  have hReads : Reads (basicBlock <|> literalBlock <|> basicText <|> literalText)
      (Printer.text text ++ after) text.toList after := by
    rw [Printer.text]
    cases hQuoting : quoting text.toList with
    | basic =>
      simp only [List.append_assoc, List.cons_append, List.nil_append]
      refine Refuses.orElse (refuses_block ?_) (Refuses.orElse (refuses_block ?_) ?_)
      · exact not_three_quotes (lacks_escaped _) hBasic
      · simp [List.replicate]
      · exact (reads_basicText _ after).orElse
    | literal =>
      simp only [List.append_assoc, List.cons_append, List.nil_append]
      have hText := isLiteralChar_of_quoting hQuoting
      refine Refuses.orElse (refuses_block ?_) (Refuses.orElse (refuses_block ?_)
        (Refuses.orElse ?_ (reads_literalText hText after)))
      · simp [List.replicate]
      · have hQuote : Lacks (· = '\'') text.toList :=
          lacks_of_forall fun c hMem => decide_eq_false (ne_of_accept (hText c hMem) rfl)
        exact not_three_quotes hQuote hLiteral
      · exact (refuses_exactly (by simp)).bind
    | basicBlock =>
      simp only [List.append_assoc]
      have hBlock := block_escapedBlock text.toList (Nat.zero_le 2)
      exact (hBlock.reads refuses_basicPiece hBasic lacks_escapedBlock).orElse
    | literalBlock =>
      simp only [List.append_assoc]
      obtain ⟨hText, hTriple⟩ := literal_of_quoting_block hQuoting
      have hBlock : Block '\'' literalPiece 0 text.toList text.toList :=
        block_literal hText hTriple (Nat.zero_le 2)
      refine Refuses.orElse (refuses_block ?_) (Reads.orElse ?_)
      · simp [List.replicate]
      · exact hBlock.reads refuses_literalPiece hLiteral (lacks_literal hText)
  exact hReads.ofList

end Reader

end CallAudio.Toml
