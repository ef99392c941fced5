import ClauseEditor.Proofs.Storage.Writing
import ClauseEditor.Proofs.Text.Utf8
import ClauseEditor.Window.Action

/-!
# What becomes of a file when a document is written

A file that cannot be opened is refused, and nothing changes.  One that can be
opened is emptied before the document is encoded.  If the document has halves
of surrogate pairs, the encoding fails and the file stays empty: what it held
is lost, and no dialog tells so.  In every other case the file holds the
document afterwards.  A text that names no file breaks the writing off before
any file is opened, and no dialog tells that either.

So writing is all or nothing exactly for the documents without such halves and
for the files that cannot be opened, and it comes to its end exactly for these
if they have names.
-/

namespace ClauseEditor.Window

open Storage

/-! ## Outcomes -/

/-- A file has these bytes, and every other file has the bytes that it had. -/
structure Replaces
    (before after : Files)
    (name : Text)
    (bytes : List UInt8) : Prop where
  itself : after.read name = .ok bytes
  others :
    ∀ other kept,
      before.read other = .ok kept →
        before.locate other ≠ before.locate name →
          after.read other = .ok kept

/-- The file holds the document, and the document counts as saved. -/
structure Saves (window : Window) (name : Text) (outcome : Outcome) : Prop where
  done : outcome.done = true
  completes : outcome.failure? = none
  silent : outcome.dialogs = []
  file :
    ∃ bytes,
      Utf8.encode window.editor.text = .ok bytes ∧
        Replaces window.files outcome.window.files name bytes
  unmodified : outcome.window.editor.document.isModified = false
  text : outcome.window.editor.text = window.editor.text

/-- A dialog tells why the file could not be opened, and nothing changes. -/
structure Refuses
    (window : Window)
    (name : Text)
    (outcome : Outcome) : Prop where
  done : outcome.done = false
  completes : outcome.failure? = none
  dialog :
    ∃ error,
      window.files.writable name = .error (.refused error) ∧
        outcome.dialogs = [.saveFailed (window.path name) error]
  same : outcome.window = window

/-- The file is empty, and nothing else changes. -/
structure Empties
    (window : Window)
    (name : Text)
    (outcome : Outcome) : Prop where
  done : outcome.done = false
  fails :
    ∃ run,
      Utf8.encode window.editor.text = .error run ∧
        outcome.failure? = some (.unencodable run)
  silent : outcome.dialogs = []
  file : Replaces window.files outcome.window.files name []
  same : outcome.window = { window with files := outcome.window.files }

/-- The name breaks the writing off, and nothing changes. -/
structure BreaksOff
    (window : Window)
    (name : Text)
    (outcome : Outcome) : Prop where
  done : outcome.done = false
  fails :
    ∃ fault,
      nameFault? name = some fault ∧
        outcome.failure? = some (.misnamed fault)
  silent : outcome.dialogs = []
  same : outcome.window = window

/-! ## Files -/

section Writing

variable {window : Window} {name : Text} {path : List Text}

theorem replaces_set
    {files : Files}
    (writable : files.writable name = .ok path)
    (bytes : List UInt8) :
    Replaces files (files.set path (some (.file bytes))) name bytes := by
  constructor
  · exact Files.read_set_self writable bytes
  · intro other kept found elsewhere
    rcases Files.exists_of_read found with ⟨location, _, leads, _⟩
    have different : location ≠ path := by
      rintro rfl
      apply elsewhere
      rw [leads, (Files.writable_eq_ok_iff.mp writable).1]
    rw [Files.read_set_elsewhere writable leads different]
    exact found

/-! ## Writing -/

theorem breaksOff_write
    {fault : NameFault}
    (barred : window.files.writable name = .error (.noName fault)) :
    BreaksOff window name (window.write name) := by
  have faulty := window.files.nameFault_eq name
  rw [barred] at faulty
  rw [write, barred]
  constructor
  · rfl
  · exact ⟨fault, faulty, rfl⟩
  · rfl
  · rfl

theorem refuses_write
    {error : FileError}
    (barred : window.files.writable name = .error (.refused error)) :
    Refuses window name (window.write name) := by
  rw [write, barred]
  constructor
  · rfl
  · rfl
  · exact ⟨error, barred, rfl⟩
  · rfl

theorem saves_write
    {bytes : List UInt8}
    (writable : window.files.writable name = .ok path)
    (encoded : Utf8.encode window.editor.text = .ok bytes) :
    Saves window name (window.write name) := by
  have replaces := replaces_set writable bytes
  rw [write, writable]
  dsimp only
  rw [encoded]
  constructor
  · rfl
  · rfl
  · rfl
  · exact ⟨bytes, encoded, replaces⟩
  · exact decide_eq_false (not_not_intro rfl)
  · rfl

theorem empties_write
    {run : Utf8.Unencodable}
    (writable : window.files.writable name = .ok path)
    (failed : Utf8.encode window.editor.text = .error run) :
    Empties window name (window.write name) := by
  have replaces := replaces_set writable []
  rw [write, writable]
  dsimp only
  rw [failed]
  constructor
  · rfl
  · exact ⟨run, failed, rfl⟩
  · rfl
  · exact replaces
  · rfl

variable {outcome : Outcome}

/-- An operation that saves or refuses comes to its end. -/
theorem completes_of_or
    (either : Saves window name outcome ∨ Refuses window name outcome) :
    outcome.failure? = none :=
  either.elim Saves.completes Refuses.completes

theorem Empties.failure_ne_none
    (empties : Empties window name outcome) :
    outcome.failure? ≠ none := by
  rcases empties.fails with ⟨run, _, fails⟩
  rw [fails]
  exact Option.some_ne_none _

theorem BreaksOff.failure_ne_none
    (breaksOff : BreaksOff window name outcome) :
    outcome.failure? ≠ none := by
  rcases breaksOff.fails with ⟨fault, _, fails⟩
  rw [fails]
  exact Option.some_ne_none _

/-- The document is not to blame for what the name does. -/
theorem Empties.not_breaksOff
    (empties : Empties window name outcome) :
    ¬ BreaksOff window name outcome := by
  intro breaksOff
  rcases empties.fails with ⟨run, _, fails⟩
  rcases breaksOff.fails with ⟨fault, _, other⟩
  rw [fails] at other
  cases other

end Writing

/--
Whatever the name and the document are, the document is written or refused, and
the file holds all of it or is left alone, exactly if the name is one of a file
and, should the file be opened, the document has no half of a surrogate pair.
A document that has one empties a file that can be opened, and a text that names
no file breaks the writing off.
-/
theorem saves_or_refuses_write_iff (window : Window) (name : Text) :
    (Saves window name (window.write name) ∨
          Refuses window name (window.write name) ↔
        nameFault? name = none ∧
          ((window.files.writable name).isOk = true →
            Utf8.IsScalar window.editor.text)) ∧
      (Empties window name (window.write name) ↔
        (window.files.writable name).isOk = true ∧
          ¬ Utf8.IsScalar window.editor.text) ∧
      (BreaksOff window name (window.write name) ↔
        nameFault? name ≠ none) := by
  rw [window.files.nameFault_eq name]
  cases opened : window.files.writable name with
  | error obstacle =>
      cases obstacle with
      | noName fault =>
          have breaksOff := breaksOff_write opened
          refine ⟨iff_of_false ?_ nofun, iff_of_false ?_ nofun,
            iff_of_true breaksOff nofun⟩
          · exact fun either =>
              breaksOff.failure_ne_none (completes_of_or either)
          · exact fun empties => empties.not_breaksOff breaksOff
      | refused error =>
          have refuses := refuses_write opened
          refine ⟨iff_of_true (Or.inr refuses) ⟨rfl, nofun⟩,
            iff_of_false ?_ nofun, iff_of_false ?_ (not_not_intro rfl)⟩
          · exact fun empties => empties.failure_ne_none refuses.completes
          · exact fun breaksOff => breaksOff.failure_ne_none refuses.completes
  | ok path =>
      cases encoded : Utf8.encode window.editor.text with
      | ok bytes =>
          have scalar := Utf8.isScalar_of_encode encoded
          have saves := saves_write opened encoded
          refine ⟨iff_of_true (Or.inl saves) ⟨rfl, fun _ => scalar⟩,
            iff_of_false ?_ fun broken => broken.2 scalar,
            iff_of_false ?_ (not_not_intro rfl)⟩
          · exact fun empties => empties.failure_ne_none saves.completes
          · exact fun breaksOff => breaksOff.failure_ne_none saves.completes
      | error run =>
          have broken : ¬ Utf8.IsScalar window.editor.text := by
            intro scalar
            rw [Utf8.encode_of_isScalar scalar] at encoded
            cases encoded
          have empties := empties_write opened encoded
          refine ⟨iff_of_false ?_ fun whole => broken (whole.2 rfl),
            iff_of_true empties ⟨rfl, broken⟩,
            iff_of_false empties.not_breaksOff (not_not_intro rfl)⟩
          exact fun either => empties.failure_ne_none (completes_of_or either)

/--
A file with one character of two units is opened, and the first unit is
deleted: saving leaves nothing of the file.
-/
theorem write_half :
    let files : Files :=
      ⟨[([Text.ofString "a.scl"], .file [0xF0, 0x9F, 0x98, 0x80])]⟩
    let actions : List Action :=
      [.load (Text.ofString "a.scl"), .edit (.select 1 0),
        .edit (.press .delete)]
    ∃ window,
      openOn .start files [] = .ok window ∧
        let last := (window.performAll actions).window
        let outcome := last.write (Text.ofString "a.scl")
        last.files.read (Text.ofString "a.scl") =
            .ok [0xF0, 0x9F, 0x98, 0x80] ∧
          outcome.window.files.read (Text.ofString "a.scl") = .ok [] ∧
          ¬ (Saves last (Text.ofString "a.scl") outcome ∨
            Refuses last (Text.ofString "a.scl") outcome) := by
  intro files actions
  refine ⟨_, rfl, by decide +kernel, by decide +kernel, ?_⟩
  rintro (saves | refuses)
  · exact absurd saves.completes (by decide +kernel)
  · exact absurd refuses.completes (by decide +kernel)

end ClauseEditor.Window
