import ClauseEditor.Json.Reader
import ClauseEditor.Json.Writer
import ClauseEditor.Preferences.Basic
import ClauseEditor.Storage.Files
import ClauseEditor.Text.Newline

/-!
# Saved preferences

The preferences are read from a settings file and written back to it.  A
file that is missing, that cannot be opened or that does not hold a JSON
object means the defaults; all but a missing one is reported.  A file that is
not UTF-8 is the one fault that stops the reading.
-/

namespace ClauseEditor.Preferences

open Storage

/-- Why a settings file could not be read. -/
inductive ReadFailure where
  | notOpened (error : FileError)
  | notJson
deriving DecidableEq

/-- An entry of the log. -/
inductive Notice where
  | notRead (path : Text) (failure : ReadFailure)
  | notObject (path : Text)
  | replaced (replacement : Replacement)
  | notSaved (path : Text)

/-- Whether a notice is an error rather than a warning. -/
def Notice.isError : Notice → Bool
  | notSaved _ => true
  | _ => false

/-- The text of a notice, up to the name of what failed. -/
def Notice.message : Notice → Text
  | notRead path _ =>
    Text.ofString "Could not read settings from " ++ path ++ Text.ofString ": "
  | notObject path =>
    Text.ofString "Settings file " ++ path ++
      Text.ofString " does not hold an object, ignoring it"
  | replaced replacement => replacement.message
  | notSaved path => Text.ofString "Could not save settings to " ++ path

/-- The preferences of a settings text. -/
def ofText (path text : Text) : Preferences × List Notice :=
  match Json.read? text with
  | none => (⟨defaults⟩, [.notRead path .notJson])
  | some (.object members) =>
    let (preferences, replacements) := ofMembers members
    (preferences, replacements.map .replaced)
  | some _ => (⟨defaults⟩, [.notObject path])

/--
The preferences saved in a file of the tree; `path` is its path in reports.
-/
def load
    (files : Files)
    (name path : Text) :
    Except Utf8.Fault (Preferences × List Notice) :=
  match files.read name with
  | .error (.refused .isDirectory) =>
    .ok (⟨defaults⟩, [.notRead path (.notOpened .isDirectory)])
  | .error _ => .ok (⟨defaults⟩, [])
  | .ok bytes => do
    let text ← Utf8.decode bytes
    return ofText path text.withLineFeeds

/-- The text of a settings value. -/
def written (value : Json) : Text :=
  value.render (.indented 2 0)

/-- Writes a settings value to a file; the text is ASCII. -/
def save (files : Files) (name : Text) (value : Json) : Except Obstacle Files :=
  files.write name ((written value).flatMap Utf8.encodeOne)

/-- The settings value of the preferences. -/
def toJson (preferences : Preferences) : Json :=
  .object preferences.members

end ClauseEditor.Preferences
