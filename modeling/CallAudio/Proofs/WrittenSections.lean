import CallAudio.Toml.Printer
import CallAudio.Proofs.Drafts
import CallAudio.Proofs.WrittenValues

/-! # Written sections are read back

A document of headers, keys with values and empty lines is read line by line. The lines written for
sections say the statements of these sections and nothing else, so the standard codec is lawful.
-/

namespace CallAudio.Toml

open Reader

variable {after text : List Char} {name : String}

/-! ## Keys -/

theorem isBareChar_of_isBlank {c : Char} (h : Reader.isBlank c) : isBareChar c = false := by
  simp only [Reader.isBlank, Bool.or_eq_true, decide_eq_true_eq] at h
  rcases h with rfl | rfl <;> rfl

theorem isBlank_of_isBareChar {c : Char} (h : isBareChar c) : Reader.isBlank c = false :=
  Bool.eq_false_iff.mpr fun hBlank => by simp [isBareChar_of_isBlank hBlank] at h

theorem IsBareKey.lacks {accept : Char → Bool} (h : IsBareKey name)
    (hBare : ∀ c, isBareChar c → accept c = false) (after : List Char) :
    Lacks accept (name.toList ++ after) :=
  lacks_append_of_ne_nil h.1 (fun c hMem => hBare c (List.all_eq_true.mp h.2 c hMem)) after

theorem IsBareKey.lacks_other {c : Char} (h : IsBareKey name) (hOther : isBareChar c = false)
    (after : List Char) : Lacks (· = c) (name.toList ++ after) :=
  h.lacks (fun _ hBare => decide_eq_false (ne_of_accept hBare hOther)) after

theorem IsBareKey.lacks_isBlank (h : IsBareKey name) (after : List Char) :
    Lacks Reader.isBlank (name.toList ++ after) := h.lacks (fun _ => isBlank_of_isBareChar) after

theorem IsBareKey.reads_simpleKey (h : IsBareKey name) (hAfter : Lacks isBareChar after) :
    Reads simpleKey (name.toList ++ after) name after := by
  have hSpan : Reads (filtered (span isBareChar) (!·.isEmpty)) (name.toList ++ after)
      name.toList after :=
    (reads_span (List.all_eq_true.mp h.2) hAfter).filtered (by simpa using h.1)
  have hReads : Reads (basicText <|> literalText <|> filtered (span isBareChar) (!·.isEmpty))
      (name.toList ++ after) name.toList after :=
    (h.lacks_other rfl after).refuses_exactly.bind.orElse
      ((h.lacks_other rfl after).refuses_exactly.bind.orElse hSpan)
  exact hReads.ofList

/-- A key ends before blanks, or before a character that cannot belong to it. -/
theorem IsBareKey.reads_key {c : Char} (h : IsBareKey name) (front : List Char)
    (hFront : ∀ d ∈ front, Reader.isBlank d)
    (hNext : isBareChar c = false ∧ Reader.isBlank c = false ∧ c ≠ '.') (after : List Char) :
    Reads key (name.toList ++ (front ++ c :: after)) ([], name) (c :: after) := by
  obtain ⟨hBare, hBlank, hPoint⟩ := hNext
  have hBehind : Lacks isBareChar (front ++ c :: after) :=
    .append (fun d hMem => isBareChar_of_isBlank (hFront d hMem)) (lacks_cons.mpr hBare)
  have hPart : Reads (blanks *> simpleKey <* blanks) (name.toList ++ (front ++ c :: after)) name
      (c :: after) :=
    ((h.lacks_isBlank _).reads_blanks.seqRight (h.reads_simpleKey hBehind)).seqLeft
      (reads_blanks front hFront (lacks_cons.mpr hBlank))
  have hDot : Refuses (exactly ['.']) (c :: after) :=
    (lacks_cons.mpr (decide_eq_false hPoint)).refuses_exactly
  exact ((hPart.separated hDot.seqRight.many).filtered rfl).bind (reads_pure _ _)

/-! ## Lines -/

theorem reads_lineEnd (after : List Char) : Reads lineEnd ('\n' :: after) () after := rfl

/-- What is written for an entry is its value, up to the end of the line. -/
theorem reads_entry {entry : Entry} (h : entry.fits) (after : List Char) :
    Lacks Reader.isBlank (Printer.entry entry ++ '\n' :: after) ∧
      Reads (value maxDepth) (Printer.entry entry ++ '\n' :: after) entry.value
        ('\n' :: after) := by
  cases entry with
  | text content => exact ⟨lacks_text content ⟨rfl, rfl⟩ _, (reads_text content .line).value _⟩
  | flag on =>
    refine ⟨?_, (reads_flag on _).value _⟩
    cases on <;> exact lacks_cons.mpr rfl
  | number number =>
    have hBlank : ∀ c : Char, c.isDigit → Reader.isBlank c = false := fun c hDigit =>
      isBlank_of_isBareChar (by simp [isBareChar, Char.isAlphanum, hDigit])
    have hLe : number ≤ 9223372036854775807 := by simpa [Entry.fits] using h
    exact ⟨lacks_toDigits number _ hBlank, (reads_number (fits_of_le hLe) .line).value _⟩
  | texts items =>
    refine ⟨?_, reads_texts items _ _⟩
    rcases items with _ | ⟨_, _ | _⟩ <;> exact lacks_cons.mpr rfl

/-- A line of a document without dotted keys. -/
inductive Line
  | empty
  | header (name : String)
  | pair (key : String) (entry : Entry)

namespace Line

def form : Line → List Char
  | empty => ['\n']
  | header name => Printer.header name
  | pair key entry => Printer.pair key (Printer.entry entry)

def statement? : Line → Option Statement
  | empty => none
  | header name => some (.table [] name)
  | pair key entry => some (.pair [] key entry.value)

def IsSound : Line → Prop
  | empty => True
  | header name => IsBareKey name
  | pair key entry => IsBareKey key ∧ entry.fits

end Line

theorem IsBareKey.reads_header (h : IsBareKey name) (after : List Char) :
    Reads statement (Printer.header name ++ after) (.table [] name) after := by
  rw [Printer.header]
  simp only [List.append_assoc, List.cons_append, List.nil_append]
  have hKey := h.reads_key (c := ']') [] (by simp) (by decide) ('\n' :: after)
  have hSingle : Refuses (exactly ['[', '[']) ('[' :: (name.toList ++ ']' :: '\n' :: after)) :=
    (reads_char rfl _).bind_refuses (h.lacks_other rfl _).refuses_exactly
  refine Refuses.orElse hSingle.bind (Reads.orElse ?_)
  exact (reads_exactly ['['] _).bind (hKey.bind ((reads_exactly [']'] _).bind
    ((reads_lineEnd after).bind (reads_pure _ _))))

theorem IsBareKey.reads_pair {entry : Entry} (h : IsBareKey name) (hFits : entry.fits)
    (after : List Char) :
    Reads statement (Printer.pair name (Printer.entry entry) ++ after) (.pair [] name entry.value)
      after := by
  obtain ⟨hFront, hValue⟩ := reads_entry hFits after
  generalize Printer.entry entry = text at hFront hValue
  rw [Printer.pair]
  simp only [List.append_assoc, List.cons_append, List.nil_append]
  have hKey := h.reads_key (c := '=') [' '] (by simp [Reader.isBlank]) (by decide)
    (' ' :: (text ++ '\n' :: after))
  have hBlank : Reads blanks (' ' :: (text ++ '\n' :: after)) () (text ++ '\n' :: after) :=
    reads_blanks [' '] (by simp [Reader.isBlank]) hFront
  have hPair : Reads (pair (value maxDepth))
      (name.toList ++ ' ' :: '=' :: ' ' :: (text ++ '\n' :: after)) ([], name, entry.value)
      ('\n' :: after) :=
    hKey.bind ((reads_exactly ['='] _).bind (hBlank.bind (hValue.bind (reads_pure _ _))))
  refine Refuses.orElse (Refuses.bind (h.lacks_other rfl _).refuses_exactly)
    (Refuses.orElse (Refuses.bind (h.lacks_other rfl _).refuses_exactly) ?_)
  exact hPair.bind ((reads_lineEnd after).bind (reads_pure _ _))

def BeginsLine (text : List Char) : Prop := Lacks (fun c => Reader.isBlank c || c = '\ufeff') text

theorem BeginsLine.lacks_isBlank (h : BeginsLine text) : Lacks Reader.isBlank text :=
  h.mono (by simp +contextual)

theorem Line.IsSound.beginsLine {line : Line} (h : line.IsSound) (after : List Char) :
    BeginsLine (line.form ++ after) := by
  cases line with
  | empty => exact lacks_cons.mpr rfl
  | header name => exact lacks_cons.mpr rfl
  | pair key entry =>
    rw [Line.form, Printer.pair]
    simp only [List.append_assoc]
    refine h.1.lacks (fun c hBare => ?_) _
    have hMark : c ≠ '\ufeff' := ne_of_accept hBare rfl
    simp [isBlank_of_isBareChar hBare, hMark]

theorem Line.form_ne_nil (line : Line) : line.form ≠ [] := by
  cases line <;> simp [Line.form, Printer.header, Printer.pair]

theorem Line.IsSound.reads {line : Line} (h : line.IsSound) (hAfter : BeginsLine after) :
    Reads ((some <$> statement <|> (do emptyLine; pure none)) <* blanks) (line.form ++ after)
      line.statement? after := by
  refine Reads.seqLeft ?_ hAfter.lacks_isBlank.reads_blanks
  cases line with
  | empty => rfl
  | header name => exact ((IsBareKey.reads_header h after).map some).orElse
  | pair key entry => exact ((h.1.reads_pair h.2 after).map some).orElse

theorem reads_document {lines : List Line} (h : ∀ line ∈ lines, line.IsSound) :
    Reads document (lines.flatMap Line.form) (lines.filterMap Line.statement?) [] := by
  -- The end of the text counts as an empty line, and the repetition stops since nothing is taken.
  have hEnd : Reads ((some <$> statement <|> (do emptyLine; pure none)) <* blanks) [] none [] := rfl
  have hLine : ∀ line ∈ lines, line.form ≠ [] ∧ ∀ after, BeginsLine after →
      Reads ((some <$> statement <|> (do emptyLine; pure none)) <* blanks) (line.form ++ after)
        line.statement? after ∧ BeginsLine (line.form ++ after) := fun line hMem =>
    ⟨line.form_ne_nil, fun after hAfter =>
      ⟨(h line hMem).reads hAfter, (h line hMem).beginsLine after⟩⟩
  obtain ⟨hMany, hFront⟩ := reads_many BeginsLine hLine lacks_nil hEnd.many_nil
  rw [List.append_nil] at hMany hFront
  have hMark : Refuses (exactly ['\ufeff']) (lines.flatMap Line.form) :=
    (hFront.mono (by simp +contextual)).refuses_exactly
  have hEnding : Reads ending [] () [] := rfl
  refine hMark.optional.bind (Reads.bind (BeginsLine.lacks_isBlank hFront).reads_blanks
    (hMany.bind (hEnding.bind ?_)))
  have hFound : (lines.map Line.statement?).reduceOption = lines.filterMap Line.statement? :=
    List.filterMap_map
  rw [hFound]
  exact reads_pure _ _

/-! ## Sections -/

namespace Section

def lines (part : Section) : List Line :=
  .header part.name :: part.entries.map fun entry => .pair entry.1 entry.2

theorem form_lines (part : Section) : part.lines.flatMap Line.form = Printer.part part := by
  rw [lines, List.flatMap_cons, List.flatMap_map]
  rfl

theorem statement?_lines (part : Section) :
    part.lines.filterMap Line.statement? = part.statements := by
  have hHeader : Line.statement? (.header part.name) = some (.table [] part.name) := rfl
  have hPairs : (part.entries.map fun entry => Line.pair entry.1 entry.2).filterMap
      Line.statement? = part.entries.map fun entry => .pair [] entry.1 entry.2.value := by
    rw [List.filterMap_map]
    exact congrFun List.filterMap_eq_map part.entries
  rw [lines, List.filterMap_cons_some hHeader, hPairs, statements]

end Section

def documentLines : List Section → List Line
  | [] => []
  | first :: rest => first.lines ++ rest.flatMap fun other => .empty :: other.lines

theorem form_documentLines (sections : List Section) :
    (documentLines sections).flatMap Line.form = Printer.document sections := by
  cases sections with
  | nil => rfl
  | cons first rest =>
    rw [documentLines, Printer.document, List.flatMap_append, Section.form_lines,
      List.flatMap_assoc]
    simp only [List.flatMap_cons, Section.form_lines]
    rfl

theorem statement?_documentLines (sections : List Section) :
    (documentLines sections).filterMap Line.statement? = sections.flatMap Section.statements := by
  cases sections with
  | nil => rfl
  | cons first rest =>
    rw [documentLines, List.filterMap_append, Section.statement?_lines, List.filterMap_flatMap]
    simp only [List.filterMap_cons, Section.statement?_lines]
    rfl

theorem isSound_of_mem_documentLines {sections : List Section} (h : IsPlain sections)
    (hFits : ∀ part ∈ sections, part.fits) : ∀ line ∈ documentLines sections, line.IsSound := by
  have hLines : ∀ part ∈ sections, ∀ line ∈ part.lines, line.IsSound := by
    intro part hPart line hLine
    rcases List.mem_cons.mp hLine with rfl | hPair
    · exact h.bareNames part hPart
    · obtain ⟨entry, hMem, rfl⟩ := List.mem_map.mp hPair
      exact ⟨h.bareKeys part hPart entry hMem, List.all_eq_true.mp (hFits part hPart) entry hMem⟩
  cases sections with
  | nil => exact fun _ => nofun
  | cons first rest =>
    intro line hLine
    rcases List.mem_append.mp hLine with hFirst | hRest
    · exact hLines first List.mem_cons_self line hFirst
    · obtain ⟨other, hOther, hMem⟩ := List.mem_flatMap.mp hRest
      rcases List.mem_cons.mp hMem with rfl | hMem
      · trivial
      · exact hLines other (.tail _ hOther) line hMem

theorem Codec.lawful_standard : Codec.standard.Lawful where
  isSome_write?_iff {sections} _ := by
    change (Printer.document? sections).isSome ↔ _
    rw [Printer.document?, ← List.all_eq_true]
    split <;> simp [*]
  read?_of_write? {sections text} h hText := by
    change Printer.document? sections = some text at hText
    rw [Printer.document?, Option.ite_none_right_eq_some, Option.some_inj] at hText
    obtain ⟨hFits, rfl⟩ := hText
    have hReads := reads_document (isSound_of_mem_documentLines h (List.all_eq_true.mp hFits))
    rw [form_documentLines, statement?_documentLines] at hReads
    change Value.ofText? _ = _
    rw [Value.ofText?, String.toList_ofList, show document _ = _ from hReads]
    exact Value.ofStatements?_sections h

end CallAudio.Toml
