import CallAudio.Files.Rehearsal
import CallAudio.Settings.Storage
import CallAudio.Proofs.WrittenSections
import Mathlib.Algebra.Group.Nat.Defs

/-! # Settings kept in a file

What is saved is what is loaded afterwards, and what could not be saved leaves the file as it was.
Saving fails only where the time is too long for an integer or writing is refused, and loading
writes only where there is no file. All of this rests on the codec only as far as it is lawful.
-/

namespace CallAudio

namespace Settings

open Toml

variable {settings : Settings} {text : String}

/-! ## As a document -/

theorem isPlain_sections (settings : Settings) : IsPlain settings.sections where
  names := by
    change ["general", "routing"].Nodup
    decide
  bareNames := by
    simp only [sections, List.forall_mem_cons]
    exact ⟨by decide, by decide, by simp⟩
  keys := by simp [sections]
  bareKeys := by
    simp only [sections, List.forall_mem_cons]
    exact ⟨⟨by decide, by decide, by simp⟩, ⟨by decide, by decide, by decide, by simp⟩, by simp⟩

theorem fits_sections_iff :
    (∀ part ∈ settings.sections, part.fits) ↔ settings.linkTimeout ≤ 2 ^ 63 - 1 := by
  simp only [sections, List.forall_mem_cons, Section.fits, List.all_cons, Entry.fits]
  simp

theorem strings?_map (items : List String) :
    (Value.array (items.map .string)).strings? = some items := by
  change (items.map Value.string).mapM Value.string? = some items
  induction items with
  | nil => rfl
  | cons item items ih =>
    rw [List.map_cons, List.mapM_cons, ih]
    rfl

/-- Every field is under the key where it is looked for, so no default takes its place. -/
theorem ofToml?_sections (settings : Settings) :
    ofToml? (.ofSections settings.sections) = some settings := by
  change ((Value.array (settings.preferred.map .string)).strings?.bind fun preferred =>
    some { settings with preferred }) = _
  rw [strings?_map]
  rfl

section Codec

variable [codec : Codec] (hCodec : codec.Lawful)

include hCodec

theorem isSome_print?_iff : settings.print?.isSome ↔ settings.linkTimeout ≤ 2 ^ 63 - 1 := by
  rw [print?, hCodec.isSome_write?_iff settings.isPlain_sections, fits_sections_iff]

theorem ofText?_of_print? (h : settings.print? = some text) : ofText? text = some settings := by
  rw [ofText?, hCodec.read?_of_write? settings.isPlain_sections h, Option.bind_some,
    ofToml?_sections]

end Codec

end Settings

theorem Path.same_iff {a b : Path} : a.same b ↔ (a.front, a.names) = (b.front, b.names) := by
  simp [Path.same]

namespace Rehearsal

variable {store other : Rehearsal} {path : Path} {content text : String} {settings : Settings}

theorem content?_put (store : Rehearsal) (path : Path) (content : String) (elsewhere : Path) :
    (store.put path content).content? elsewhere =
      if path.same elsewhere then some content else store.content? elsewhere := by
  simp only [content?, put]
  split
  · rename_i hSame
    rw [List.find?_cons, hSame]
    rfl
  · rename_i hOther
    -- The file that gave way lies under no path but those that are the same as the new one's.
    have hKept : ∀ file : Path × String, file.1.same elsewhere → ¬ file.1.same path :=
      fun file hFile hSame => hOther (Path.same_iff.mpr
        ((Path.same_iff.mp hSame).symm.trans (Path.same_iff.mp hFile)))
    simp only [List.find?_cons, Bool.eq_false_iff.mpr hOther, List.find?_filter]
    congr 2
    funext file
    by_cases hFile : file.1.same elsewhere <;> simp [hFile, hKept]

def prepared (store : Rehearsal) (path : Path) : Rehearsal :=
  { store with directories := store.directories ++ path.parent?.toList }

def noted (store : Rehearsal) (path : Path) (text : String) : Rehearsal :=
  { store with writes := store.writes ++ [(path, text)] }

theorem bind_run {α β : Type} (first : StateM Rehearsal α) (next : α → StateM Rehearsal β)
    (store : Rehearsal) : (first >>= next) store = next (first store).1 (first store).2 := rfl

theorem adapt_run {α : Type} (explain : FileError → StorageError)
    (first : StateM Rehearsal (Except FileError α)) (store : Rehearsal) :
    (ExceptT.adapt explain (ExceptT.mk first)).run store =
      ((first store).1.mapError explain, (first store).2) := rfl

theorem write_run (store : Rehearsal) (path : Path) (text : String) :
    FileStore.write (m := StateM Rehearsal) path text store =
      if store.refusesWriting then (.error .writeRefused, store.noted path text)
      else (.ok (), (store.noted path text).put path text) := rfl

theorem prepare_run (store : Rehearsal) (path : Path) :
    Settings.prepare (m := StateM Rehearsal) path store = (.ok (), store.prepared path) := by
  rw [Settings.prepare, prepared]
  cases path.parent? with
  | none =>
    rw [Option.toList_none, List.append_nil]
    rfl
  | some directory => rfl

theorem content?_of_files (h : store.files = other.files) :
    store.content? path = other.content? path := by rw [content?, h, content?]

def attempt (path : Path) : Except StorageError Unit → List LogLine
  | .ok () => Settings.saveLog path (.ok ())
  | .error error => [.warn "Could not save default configuration"
      [("path", path.text), ("error", error.message)]]

section Codec

variable [codec : Toml.Codec]

def save (store : Rehearsal) (path : Path) (settings : Settings) :
    Except StorageError Unit × Rehearsal :=
  (Settings.save (m := StateM Rehearsal) path settings).run store

def load (store : Rehearsal) (path : Path) :
    (Except StorageError Settings × List LogLine) × Rehearsal :=
  Settings.load (m := StateM Rehearsal) path store

/-- What saving comes to: there is nothing to write, writing is refused, or the file is written. -/
theorem save_eq (store : Rehearsal) (path : Path) (settings : Settings) :
    store.save path settings = match settings.print? with
      | none => (.error .notExpressible, store.prepared path)
      | some text =>
        if store.refusesWriting then
          (.error (.file .writeRefused), (store.prepared path).noted path text)
        else (.ok (), ((store.prepared path).noted path text).put path text) := by
  rw [save, Settings.save, ExceptT.run_bind, bind_run, adapt_run, prepare_run]
  cases settings.print? with
  | none => rfl
  | some text =>
    simp only [Except.mapError]
    rw [adapt_run, write_run]
    change _ = if (store.prepared path).refusesWriting then _ else _
    split <;> rfl

def found (store : Rehearsal) (path : Path) : Except StorageError Settings :=
  match store.read path with
  | .error _ => .error (.notReadable path)
  | .ok text => (Settings.ofText? text).elim (.error (.notUnderstood path)) .ok

theorem read_run (store : Rehearsal) (path : Path) :
    (Settings.read (m := StateM Rehearsal) path).run store = (store.found path, store) := by
  rw [Settings.read, ExceptT.run_bind, bind_run, adapt_run, found]
  have hRead : FileStore.read (m := StateM Rehearsal) path store = (store.read path, store) := rfl
  rw [hRead]
  cases store.read path with
  | error error => rfl
  | ok text =>
    simp only [Except.mapError]
    cases Settings.ofText? text <;> rfl

theorem load_eq (store : Rehearsal) (path : Path) :
    store.load path =
      let loading := LogLine.debug "Loading configuration" [("path", path.text)]
      if (store.content? path).isSome then ((store.found path, [loading]), store)
      else
        let saved := store.save path .usual
        ((.ok .usual, loading :: .info "Configuration file not found, using defaults" [] ::
          attempt path saved.1), saved.2) := by
  have hContains : FileStore.contains (m := StateM Rehearsal) path store =
      ((store.content? path).isSome, store) := rfl
  rw [load, Settings.load, bind_run, hContains]
  simp only
  split
  · rw [bind_run, read_run]
    rfl
  · rw [bind_run]
    simp only [save]
    cases ((Settings.save (m := StateM Rehearsal) path .usual).run store).1 <;> rfl

/-! ## Saving -/

theorem save_cases (store : Rehearsal) (path : Path) (settings : Settings) :
    settings.print? = none ∧
        store.save path settings = (.error .notExpressible, store.prepared path) ∨
      ∃ text, settings.print? = some text ∧
        (store.refusesWriting = true ∧ store.save path settings =
            (.error (.file .writeRefused), (store.prepared path).noted path text) ∨
          store.refusesWriting = false ∧ store.save path settings =
            (.ok (), ((store.prepared path).noted path text).put path text)) := by
  rw [save_eq]
  cases settings.print? with
  | none => exact .inl ⟨rfl, rfl⟩
  | some text =>
    refine .inr ⟨text, rfl, ?_⟩
    cases store.refusesWriting with
    | true => exact .inl ⟨rfl, rfl⟩
    | false => exact .inr ⟨rfl, rfl⟩

theorem save_eq_ok_iff (hCodec : codec.Lawful) : (store.save path settings).1 = .ok () ↔
    settings.linkTimeout ≤ 2 ^ 63 - 1 ∧ store.refusesWriting = false := by
  rw [← Settings.isSome_print?_iff hCodec]
  obtain ⟨hPrint, hSave⟩ | ⟨text, hPrint, ⟨hRefuses, hSave⟩ | ⟨hAllowed, hSave⟩⟩ :=
    store.save_cases path settings
  · simp [hSave, hPrint]
  · simp [hSave, hRefuses]
  · simp [hSave, hPrint, hAllowed]

theorem files_of_save_error {error : StorageError}
    (h : (store.save path settings).1 = .error error) :
    (store.save path settings).2.files = store.files := by
  obtain ⟨_, hSave⟩ | ⟨text, _, ⟨_, hSave⟩ | ⟨_, hSave⟩⟩ := store.save_cases path settings
  · rw [hSave]
    rfl
  · rw [hSave]
    rfl
  · rw [hSave] at h
    cases h

theorem content?_save (h : (store.save path settings).1 = .ok ()) :
    (store.save path settings).2.content? path = settings.print? := by
  obtain ⟨_, hSave⟩ | ⟨text, hPrint, ⟨_, hSave⟩ | ⟨_, hSave⟩⟩ := store.save_cases path settings
  · rw [hSave] at h
    cases h
  · rw [hSave] at h
    cases h
  · rw [hSave, content?_put, if_pos (Path.same_iff.mpr rfl), hPrint]

theorem content?_save_other {elsewhere : Path} (h : path.same elsewhere = false) :
    (store.save path settings).2.content? elsewhere = store.content? elsewhere := by
  obtain ⟨_, hSave⟩ | ⟨text, _, ⟨_, hSave⟩ | ⟨_, hSave⟩⟩ := store.save_cases path settings
  · rw [hSave]
    rfl
  · rw [hSave]
    rfl
  · rw [hSave, content?_put, if_neg (by simp [h])]
    rfl

theorem refuses_save (store : Rehearsal) (path : Path) (settings : Settings) :
    (store.save path settings).2.refusesReading = store.refusesReading ∧
      (store.save path settings).2.refusesWriting = store.refusesWriting := by
  obtain ⟨_, hSave⟩ | ⟨text, _, ⟨_, hSave⟩ | ⟨_, hSave⟩⟩ := store.save_cases path settings <;>
    exact hSave ▸ ⟨rfl, rfl⟩

/-! ## Loading -/

theorem load_of_content {text : String} (hReadable : store.refusesReading = false)
    (hContent : store.content? path = some text) (hText : Settings.ofText? text = some settings) :
    (store.load path).1.1 = .ok settings := by
  rw [load_eq, hContent]
  simp [found, read, hReadable, hContent, hText]

theorem load_of_none (h : store.content? path = none) :
    (store.load path).1.1 = .ok .usual ∧ (store.load path).2 = (store.save path .usual).2 := by
  rw [load_eq, h]
  exact ⟨rfl, rfl⟩

/-- What loading says depends on the files and on what is refused, not on what was asked before. -/
theorem load_congr (hFiles : store.files = other.files)
    (hReading : store.refusesReading = other.refusesReading)
    (hWriting : store.refusesWriting = other.refusesWriting) :
    (store.load path).1 = (other.load path).1 := by
  have hContent : store.content? path = other.content? path := content?_of_files hFiles
  have hFound : store.found path = other.found path := by
    rw [found, read, hReading, hContent, found, read]
  have hSaved : (store.save path .usual).1 = (other.save path .usual).1 := by
    rw [save_eq, save_eq, hWriting]
    cases Settings.usual.print? with
    | none => rfl
    | some text => cases other.refusesWriting <;> rfl
  rw [load_eq, load_eq, hContent, hFound]
  simp only [hSaved]
  split <;> rfl

theorem load_save (hCodec : codec.Lawful) (hReadable : store.refusesReading = false)
    (h : (store.save path settings).1 = .ok ()) :
    ((store.save path settings).2.load path).1.1 = .ok settings := by
  have hTime := ((save_eq_ok_iff hCodec).mp h).1
  obtain ⟨text, hPrint⟩ :=
    Option.isSome_iff_exists.mp ((Settings.isSome_print?_iff hCodec).mpr hTime)
  exact load_of_content ((refuses_save store path settings).1.trans hReadable)
    ((content?_save h).trans hPrint) (Settings.ofText?_of_print? hCodec hPrint)

theorem load_save_error {error : StorageError} (h : (store.save path settings).1 = .error error) :
    ((store.save path settings).2.load path).1 = (store.load path).1 := by
  obtain ⟨hReading, hWriting⟩ := refuses_save store path settings
  exact load_congr (files_of_save_error h) hReading hWriting

theorem load_load (hCodec : codec.Lawful) (hReadable : store.refusesReading = false)
    (h : store.content? path = none) :
    ((store.load path).2.load path).1.1 = .ok .usual := by
  rw [(load_of_none h).2]
  cases hSaved : (store.save path .usual).1 with
  | ok => exact load_save hCodec hReadable hSaved
  | error error =>
    rw [load_save_error hSaved]
    exact (load_of_none h).1

/-- Whatever files there are, whether or not writing is refused, and with any lawful codec: saving
succeeds exactly if the time fits an integer and writing is not refused, and what is loaded then is
what was saved. If saving fails, every file is as it was, and loading says what it would have said
before. Files under other paths are never touched. Loading leaves everything as it is where there is
a file. Where there is none it gives the usual settings, whether or not these could be saved, and
gives them again the next time. -/
theorem settings_kept (hCodec : codec.Lawful) (store : Rehearsal) (path : Path)
    (settings : Settings) (hReadable : store.refusesReading = false) :
    let saved := store.save path settings
    let loaded := store.load path
    (saved.1 = .ok () ↔ settings.linkTimeout ≤ 2 ^ 63 - 1 ∧ store.refusesWriting = false) ∧
    (saved.1 = .ok () → (saved.2.load path).1.1 = .ok settings) ∧
    (∀ error, saved.1 = .error error →
      saved.2.files = store.files ∧ (saved.2.load path).1 = loaded.1) ∧
    (∀ elsewhere, path.same elsewhere = false →
      saved.2.content? elsewhere = store.content? elsewhere) ∧
    ((store.content? path).isSome → loaded.2 = store) ∧
    (store.content? path = none →
      loaded.1.1 = .ok .usual ∧ (loaded.2.load path).1.1 = .ok .usual) := by
  refine ⟨save_eq_ok_iff hCodec, load_save hCodec hReadable, ?_, ?_, ?_, ?_⟩
  · intro error hError
    exact ⟨files_of_save_error hError, load_save_error hError⟩
  · intro elsewhere hOther
    exact content?_save_other hOther
  · intro hFile
    rw [load_eq, if_pos hFile]
  · intro hNone
    exact ⟨(load_of_none hNone).1, load_load hCodec hReadable hNone⟩

end Codec

/-- A file that cannot be understood gives way to settings with quotes and line breaks and the
longest time, written under another spelling of its path; one millisecond more, and it stays. -/
theorem settings_kept_quoted :
    let store : Rehearsal := ⟨[(⟨"/test/config.toml"⟩, "[routing")], [], [], false, false⟩
    let path : Path := ⟨"/test//config.toml"⟩
    let settings : Settings := ⟨"a 'b'\n\"c\"\\", true, ["", "'''\"\"\""], 2 ^ 63 - 1, false⟩
    let longer : Settings := { settings with linkTimeout := 2 ^ 63 }
    Toml.Codec.standard.Lawful ∧ store.refusesReading = false ∧
      ((store.save path settings).2.load path).1.1 = .ok settings ∧
      (store.save path longer).2.files = store.files ∧
      ((store.save path longer).2.load path).1 = (store.load path).1 := by
  intro store path settings longer
  have hLawful : Toml.Codec.standard.Lawful := Toml.Codec.lawful_standard
  have hKept := settings_kept hLawful store path settings rfl
  have hLonger := settings_kept hLawful store path longer rfl
  refine ⟨hLawful, rfl, hKept.2.1 (hKept.1.mpr ⟨Nat.le_refl _, rfl⟩), ?_⟩
  cases hSaved : (store.save path longer).1 with
  | ok => exact absurd (hLonger.1.mp hSaved).1 (by decide)
  | error error => exact hLonger.2.2.1 error hSaved

end Rehearsal

end CallAudio
