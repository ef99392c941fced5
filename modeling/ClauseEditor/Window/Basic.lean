import ClauseEditor.Editor.Typing
import ClauseEditor.Preferences.Saved

/-!
# The window

A window holds one editor, the preferences and the file that is being edited.
Its title names the file and its status line tells what was done last or
where the cursor is.

The position in the status line is written when the cursor is reported, with
the file that is current at that moment; a later change of the file does not
touch it.
-/

namespace ClauseEditor

open Storage

structure Window where
  editor : Editor
  registry : Language.Registry
  preferences : Preferences
  files : Files
  /-- The directory that file names are relative to, as reports show it. -/
  directory : Text
  /-- The name of the file that is being edited. -/
  file? : Option Text
  title : Text
  status : Text

namespace Window

/-- What a user decides when a dialog asks. -/
structure Reply where
  /-- Whether unsaved changes may be given up. -/
  discard : Bool
  /-- The file name that is picked; none if the dialog is cancelled. -/
  pick? : Option Text

/-- Why a file could not be read. -/
inductive OpenFailure where
  | notOpened (error : FileError)
  | notText (fault : Utf8.Fault)
deriving DecidableEq

/-- The dialogs that a window shows. -/
inductive Dialog where
  | openFailed (path : Text) (failure : OpenFailure)
  | saveFailed (path : Text) (error : FileError)
  | unsavedChanges
  | chooseOpen (filter : Text)
  | chooseSave (filter : Text)

def Dialog.title : Dialog → Text
  | openFailed _ _ => Text.ofString "Open Failed"
  | saveFailed _ _ => Text.ofString "Save Failed"
  | unsavedChanges => Text.ofString "Unsaved Changes"
  | chooseOpen _ => Text.ofString "Open File"
  | chooseSave _ => Text.ofString "Save File As"

/-- The message of a dialog; for one that asks for a file, its name filter. -/
def Dialog.text : Dialog → Text
  | openFailed path failure =>
    Text.ofString "Could not open " ++ path ++ Text.ofString ":\n" ++
      match failure with
      | .notOpened error => error.message path
      | .notText fault => fault.message
  | saveFailed path error =>
    Text.ofString "Could not save " ++ path ++ Text.ofString ":\n" ++
      error.message path
  | unsavedChanges =>
    Text.ofString ("The document has unsaved changes. " ++
      "Do you want to continue without saving?")
  | chooseOpen filter => filter
  | chooseSave filter => filter

/-- What breaks an operation off; no dialog tells it. -/
inductive Failure where
  /-- A file was to be opened by a text that is not the name of one. -/
  | misnamed (fault : NameFault)
  /-- The surrogates that kept a document from being written. -/
  | unencodable (run : Utf8.Unencodable)
deriving DecidableEq

/-- A window after an operation, and what the operation showed and found. -/
structure Outcome where
  window : Window
  dialogs : List Dialog
  /-- Whether the operation did what it is for. -/
  done : Bool
  failure? : Option Failure

/-- The surrogates that kept a document from being written. -/
def Outcome.unencodable? (outcome : Outcome) : Option Utf8.Unencodable :=
  match outcome.failure? with
  | some (.unencodable run) => some run
  | _ => none

/-- An operation that shows no dialog. -/
def quiet (window : Window) : Outcome := ⟨window, [], true, none⟩

/-- An operation that is not carried out. -/
def refuse (window : Window) (dialogs : List Dialog) : Outcome :=
  ⟨window, dialogs, false, none⟩

/-- An operation that is broken off. -/
def breakOff (window : Window) (failure : Failure) : Outcome :=
  ⟨window, [], false, some failure⟩

/-- An outcome with dialogs that were shown before. -/
def Outcome.after (outcome : Outcome) (dialogs : List Dialog) : Outcome :=
  { outcome with dialogs := dialogs ++ outcome.dialogs }

/-! ## What a window shows -/

def settingsName : Text := Text.ofString "settings.json"

/-- The path of a file as reports show it. -/
def pathIn (directory name : Text) : Text :=
  Text.join (Text.ofString "/") (directory :: Language.pathParts name)

def path (window : Window) (name : Text) : Text :=
  pathIn window.directory name

/-- The title of a window in which a file is being edited. -/
def titleFor (file? : Option Text) : Text :=
  Text.ofString "DatalogPad" ++
    match file? with
    | none => []
    | some name => Text.ofString " — " ++ Language.fileName name

/-- Tells a place in the current file. -/
def placeReport (window : Window) (place : Document.Place) : Text :=
  let path := (window.file?.map window.path).getD (Text.ofString "Untitled")
  path ++ Text.ofString " — Line " ++ Text.ofNat (place.line + 1) ++
    Text.ofString ", Column " ++ Text.ofNat (place.column + 1)

/-- The position of the cursor in the current file. -/
def positionReport (window : Window) : Text :=
  window.placeReport window.editor.place

/-- The style sheet of the window, in the colours of the preferences. -/
def styleSheet (window : Window) : Text :=
  let palette := window.preferences.palette
  let plain (widget : String) : Text :=
    Text.ofString widget ++ Text.ofString " \x7b background-color: " ++
      palette.background.hex ++ Text.ofString "; color: " ++
      palette.foreground.hex ++ Text.ofString "; \x7d"
  let selected (widget : String) : Text :=
    Text.ofString widget ++
      Text.ofString "::item:selected \x7b background: " ++
      palette.keyword.hex ++ Text.ofString "; \x7d"
  Text.join (Text.ofString "\n")
    ((["QMainWindow", "QMenuBar", "QMenu", "QStatusBar"].map plain) ++
      ["QMenuBar", "QMenu"].map selected)

/-- The indent widths that a user can choose from. -/
def widthChoices : List Int := [2, 4, 8]

/-- The width that is marked in the menu, if it is one of the choices. -/
def markedWidths (window : Window) : List Int :=
  widthChoices.filter (· = window.preferences.indentWidth)

/-- The colour scheme that is marked in the menu. -/
def markedSchemes (window : Window) : List ColourScheme :=
  window.preferences.scheme?.toList

/-! ## Construction and basic operations -/

/-- A window on a directory, with the preferences that are saved there. -/
def openOn
    (registry : Language.Registry)
    (files : Files)
    (directory : Text) :
    Except Utf8.Fault Window := do
  let (preferences, _) ←
    Preferences.load files settingsName (pathIn directory settingsName)
  let editor := Editor.start preferences.palette registry.default
  let editor := editor.setFontSize preferences.fontSize
  let editor := editor.setIndentWidth preferences.indentWidth
  return {
    editor := editor.setWrapping preferences.wordWrap
    registry, preferences, files, directory
    file? := none
    title := titleFor none
    status := [] }

/-- A window opens with the preferences that are loaded, and without a file. -/
theorem exists_load_of_openOn
    {registry : Language.Registry}
    {files : Files}
    {directory : Text}
    {window : Window}
    (opened : openOn registry files directory = .ok window) :
    ∃ preferences notices,
      Preferences.load files settingsName (pathIn directory settingsName) =
          .ok (preferences, notices) ∧
        window.preferences = preferences ∧
        window.editor =
          (((Editor.start preferences.palette registry.default).setFontSize
            preferences.fontSize).setIndentWidth
              preferences.indentWidth).setWrapping preferences.wordWrap ∧
        window.files = files ∧ window.file? = none := by
  rw [openOn] at opened
  cases loaded :
      Preferences.load files settingsName (pathIn directory settingsName) with
  | error fault =>
      rw [loaded] at opened
      cases opened
  | ok result =>
      rcases result with ⟨preferences, notices⟩
      rw [loaded] at opened
      cases opened
      exact ⟨preferences, notices, rfl, rfl, rfl, rfl, rfl⟩

/-- Takes over what happened in the editor and tells what was reported last. -/
def follow (window : Window) (outcome : Editor.Outcome) : Window :=
  let window := { window with editor := outcome.editor }
  match outcome.reported? with
  | none => window
  | some place => { window with status := window.placeReport place }

section Follow

variable (window : Window) (outcome : Editor.Outcome)

@[simp]
theorem editor_follow : (window.follow outcome).editor = outcome.editor := by
  rw [follow]
  dsimp only
  split <;> rfl

@[simp]
theorem preferences_follow :
    (window.follow outcome).preferences = window.preferences := by
  rw [follow]
  dsimp only
  split <;> rfl

@[simp]
theorem files_follow : (window.follow outcome).files = window.files := by
  rw [follow]
  dsimp only
  split <;> rfl

end Follow

/-- Sets a preference and saves all of them; a failure to save is only logged. -/
def persist (window : Window) (key : Text) (value : Json) : Window :=
  let preferences := window.preferences.set key value
  let files :=
    match Preferences.save window.files settingsName preferences.toJson with
    | .ok files => files
    | .error _ => window.files
  { window with preferences, files }

end Window

end ClauseEditor
