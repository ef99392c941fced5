import ClauseEditor.Window.Basic

/-!
# The menu bar

The commands of the window with their labels and shortcuts, and the menus
that offer them.  An ampersand marks the letter that opens an entry.
-/

namespace ClauseEditor.Window

/-- The commands that have a label and perhaps shortcuts. -/
inductive Command where
  | new
  | openFile
  | save
  | saveAs
  | exit
  | reindent
  | toggleComment
  | increaseFont
  | decreaseFont
  | resetFont
  | wordWrap
deriving DecidableEq

namespace Command

/-- All commands in the order of the menus. -/
def all : List Command :=
  [new, openFile, save, saveAs, exit, reindent, toggleComment, increaseFont,
    decreaseFont, resetFont, wordWrap]

def label : Command → Text
  | new => Text.ofString "&New"
  | openFile => Text.ofString "&Open…"
  | save => Text.ofString "&Save"
  | saveAs => Text.ofString "Save &As…"
  | exit => Text.ofString "E&xit"
  | reindent => Text.ofString "&Reindent Buffer"
  | toggleComment => Text.ofString "Toggle &Comment"
  | increaseFont => Text.ofString "Increase Font"
  | decreaseFont => Text.ofString "Decrease Font"
  | resetFont => Text.ofString "Reset Font Size"
  | wordWrap => Text.ofString "Word Wrap"

def shortcuts (command : Command) : List Text :=
  let keys : List String :=
    match command with
    | new => ["Ctrl+N"]
    | openFile => ["Ctrl+O"]
    | save => ["Ctrl+S"]
    | saveAs => ["Ctrl+Shift+S"]
    | exit => ["Ctrl+Q"]
    | reindent => ["Ctrl+Shift+I"]
    | toggleComment => ["Ctrl+/"]
    | increaseFont => ["Ctrl++", "Ctrl+="]
    | decreaseFont => ["Ctrl+-"]
    | resetFont => ["Ctrl+0"]
    | wordWrap => []
  keys.map Text.ofString

/-- Whether a command shows a state that it switches. -/
def isCheckable (command : Command) : Bool :=
  command = wordWrap

end Command

/-- An entry of a menu. -/
inductive MenuItem where
  | command (command : Command)
  | separator
  /-- A choice between values that exclude each other. -/
  | choice (title : Text) (labels : List Text)

structure Menu where
  title : Text
  items : List MenuItem

/-- The menu bar from left to right. -/
def menus : List Menu :=
  [⟨Text.ofString "&File",
      [.command .new, .command .openFile, .separator, .command .save,
        .command .saveAs, .separator, .command .exit]⟩,
    ⟨Text.ofString "&Edit", [.command .reindent, .command .toggleComment]⟩,
    ⟨Text.ofString "&View",
      [.command .increaseFont, .command .decreaseFont, .command .resetFont,
        .separator, .command .wordWrap]⟩,
    ⟨Text.ofString "&Settings",
      [.choice (Text.ofString "Theme")
          (ColourScheme.all.map ColourScheme.title),
        .choice (Text.ofString "Indent Width")
          (widthChoices.map Text.ofInt)]⟩]

end ClauseEditor.Window
