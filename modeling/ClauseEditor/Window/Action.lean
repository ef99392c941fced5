import ClauseEditor.Editor.Command
import ClauseEditor.Window.Documents
import ClauseEditor.Window.Options

/-!
# Actions on a window

Whatever is done to a window is one of a fixed number of actions: the menu
commands, opening a named file, closing, and the commands of the editor.
The states that a window can be in are those that actions lead to from a
window that has just been opened.
-/

namespace ClauseEditor.Window

inductive Action where
  /-- Opens a file without asking. -/
  | load (name : Text)
  | new (reply : Reply)
  | openPicked (reply : Reply)
  | save (reply : Reply)
  | saveAs (reply : Reply)
  | close (reply : Reply)
  | chooseScheme (scheme : ColourScheme)
  | chooseWidth (width : Int)
  | changeFont (change : FontChange)
  | toggleWrap
  | reindent
  | toggleComment
  | edit (command : Editor.Command)

/-- What an action does. -/
def perform (window : Window) : Action → Outcome
  | .load name => window.load name
  | .new reply => window.new reply
  | .openPicked reply => window.openPicked reply
  | .save reply => window.save reply
  | .saveAs reply => window.saveAs reply
  | .close reply => window.close reply
  | .chooseScheme scheme => (window.chooseScheme scheme).quiet
  | .chooseWidth width => (window.chooseWidth width).quiet
  | .changeFont change => (window.changeFont change).quiet
  | .toggleWrap => window.toggleWrap.quiet
  | .reindent => window.reindent.quiet
  | .toggleComment => window.toggleComment.quiet
  | .edit command => (window.follow (window.editor.perform command)).quiet

/-- What actions do one after another; the last one decides the success. -/
def performAll (window : Window) (actions : List Action) : Outcome :=
  actions.foldl
    (fun outcome action =>
      (outcome.window.perform action).after outcome.dialogs)
    window.quiet

end ClauseEditor.Window
