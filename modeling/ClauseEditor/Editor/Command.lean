import ClauseEditor.Editor.LineEditing
import ClauseEditor.Editor.Typing

/-!
# Commands of the editor

Whatever is done to an editor is one of a fixed number of commands.  A
command that types a text presses its character keys one after another, and
each of them is an operation of its own.

The states that an editor can be in are those that commands lead to from an
editor that has just been given a text.
-/

namespace ClauseEditor.Editor

inductive Command where
  | setText (text : Text)
  /-- Puts the cursor at a position; the selection goes from there to the anchor. -/
  | select (position anchor : Int)
  | selectEnd
  | press (key : Key)
  /-- Types the characters of a text, perhaps with Control held. -/
  | type (text : Text) (control : Bool)
  | breakLine
  | reindentLine
  | reindentSelection
  | reindentDocument
  | toggleComment
  | undo
  | redo
  | setIndentWidth (width : Int)
  | setFontSize (size : Int)
  | resetFontSize
  | turnWheel (control : Bool) (delta : Int)
  | setWrapping (wraps : Bool)
  | setMode (mode : Language.Mode)
  | setPalette (palette : Palette)

/-- Types the characters of a text one after another. -/
def typeText (editor : Editor) (text : Text) (control : Bool) : Outcome :=
  text.foldl
    (fun outcome c => outcome.andThen (·.typeCharacter c control))
    editor.stay

/-- What a command does. -/
def perform (editor : Editor) : Command → Outcome
  | .setText text => editor.setText text
  | .select position anchor => editor.select position anchor
  | .selectEnd => editor.selectEnd
  | .press key => editor.pressKey key
  | .type text control => editor.typeText text control
  | .breakLine => editor.breakLine
  | .reindentLine => editor.reindentLine
  | .reindentSelection => editor.reindentSelection
  | .reindentDocument => editor.reindentDocument.1
  | .toggleComment => editor.toggleComment
  | .undo => editor.undo
  | .redo => editor.redo
  | .setIndentWidth width => (editor.setIndentWidth width).stay
  | .setFontSize size => (editor.setFontSize size).stay
  | .resetFontSize => editor.resetFontSize.stay
  | .turnWheel control delta => (editor.turnWheel control delta).stay
  | .setWrapping wraps => (editor.setWrapping wraps).stay
  | .setMode mode => (editor.setMode mode).stay
  | .setPalette palette => (editor.setPalette palette).stay

/-- What commands do one after another. -/
def performAll (editor : Editor) (commands : List Command) : Outcome :=
  commands.foldl
    (fun outcome command => outcome.andThen (·.perform command))
    editor.stay

end ClauseEditor.Editor
