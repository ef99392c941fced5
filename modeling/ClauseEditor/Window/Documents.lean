import ClauseEditor.Window.Basic

/-!
# Opening and saving documents

A modified document is given up only if the user agrees.  Opening a file
replaces the document only once the whole file has been read.  Saving empties
the file before the document is encoded, so a document with half of a
surrogate pair leaves an empty file behind.  A text that names no file breaks
both off before anything happens.
-/

namespace ClauseEditor.Window

open Storage

/-- Carries on unless the document is modified and the user wants to keep it. -/
def unlessKept
    (window : Window)
    (reply : Reply)
    (next : Window → Outcome) :
    Outcome :=
  if window.editor.document.isModified = false then next window
  else if reply.discard then (next window).after [.unsavedChanges]
  else window.refuse [.unsavedChanges]

/-- Makes a file the current one. -/
def setFile (window : Window) (file? : Option Text) : Window :=
  { window with file?, title := titleFor file? }

/-- Shows the text of a file in the mode that the name of the file calls for. -/
def showFile (window : Window) (name text : Text) : Window :=
  let mode := (window.registry.forPath? name).getD window.registry.default
  let editor := window.editor.setMode mode
  (window.follow (editor.setText text)).setFile (some name)

/-- Opens a file; its line ends become line feeds. -/
def load (window : Window) (name : Text) : Outcome :=
  let refuse (failure : OpenFailure) : Outcome :=
    window.refuse [.openFailed (window.path name) failure]
  match window.files.read name with
  | .error (.noName fault) => window.breakOff (.misnamed fault)
  | .error (.refused error) => refuse (.notOpened error)
  | .ok bytes =>
    match Utf8.decode bytes with
    | .error fault => refuse (.notText fault)
    | .ok text => (window.showFile name text.withLineFeeds).quiet

/-- A file that is not opened leaves the window as it was. -/
theorem load_cases (window : Window) (name : Text) :
    ((window.load name).window = window ∧ (window.load name).done = false) ∨
      ∃ text, window.load name = (window.showFile name text).quiet := by
  rw [load]
  dsimp only
  split
  · exact Or.inl ⟨rfl, rfl⟩
  · exact Or.inl ⟨rfl, rfl⟩
  · split
    · exact Or.inl ⟨rfl, rfl⟩
    · exact Or.inr ⟨_, rfl⟩

/-- Writes the document to a file; a name that cannot be opened is refused. -/
def write (window : Window) (name : Text) : Outcome :=
  match window.files.writable name with
  | .error (.noName fault) => window.breakOff (.misnamed fault)
  | .error (.refused error) =>
    window.refuse [.saveFailed (window.path name) error]
  | .ok path =>
    match Utf8.encode window.editor.text with
    | .error run =>
      let files := window.files.set path (some (.file []))
      { window with files }.breakOff (.unencodable run)
    | .ok bytes =>
      let files := window.files.set path (some (.file bytes))
      let editor :=
        { window.editor with document := window.editor.document.markSaved }
      { window with files, editor }.quiet

/-- Starts an empty document. -/
def new (window : Window) (reply : Reply) : Outcome :=
  window.unlessKept reply fun window =>
    let window := window.follow (window.editor.setText [])
    let editor := window.editor.setMode window.registry.default
    (({ window with editor }).setFile none).quiet

/-- Asks for a file and opens it. -/
def openPicked (window : Window) (reply : Reply) : Outcome :=
  window.unlessKept reply fun window =>
    let ask := Dialog.chooseOpen window.registry.dialogFilter
    match reply.pick? with
    | none => window.refuse [ask]
    | some name => (window.load name).after [ask]

/-- Asks for a file and writes the document to it. -/
def saveAs (window : Window) (reply : Reply) : Outcome :=
  let ask := Dialog.chooseSave window.registry.dialogFilter
  match reply.pick? with
  | none => window.refuse [ask]
  | some name =>
    let outcome := window.write name
    let window :=
      if outcome.done then outcome.window.setFile (some name)
      else outcome.window
    ({ outcome with window }).after [ask]

/-- Writes the document to its file, or to one that is asked for. -/
def save (window : Window) (reply : Reply) : Outcome :=
  match window.file? with
  | some name => window.write name
  | none => window.saveAs reply

/-- Whether the window may be closed. -/
def close (window : Window) (reply : Reply) : Outcome :=
  window.unlessKept reply quiet

end ClauseEditor.Window
