import ClauseEditor.Window.Basic

/-!
# The other menu commands

A choice of appearance or of the indent width is saved at once with all other
preferences, even if it changes nothing.
-/

namespace ClauseEditor.Window

/-- Chooses a colour scheme. -/
def chooseScheme (window : Window) (scheme : ColourScheme) : Window :=
  let editor := window.editor.setPalette scheme.palette
  { window with editor }.persist Preferences.schemeKey (.string scheme.name)

/-- Chooses the columns of one level. -/
def chooseWidth (window : Window) (width : Int) : Window :=
  let editor := window.editor.setIndentWidth width
  let window :=
    { window with editor }.persist Preferences.indentWidthKey (.integer width)
  { window with
    status := Text.ofString "Indent width: " ++ Text.ofInt width }

inductive FontChange where
  | increase
  | decrease
  | reset
deriving DecidableEq

/-- Changes the font size. -/
def changeFont (window : Window) (change : FontChange) : Window :=
  let editor :=
    match change with
    | .increase => window.editor.setFontSize (window.editor.fontSize + 1)
    | .decrease => window.editor.setFontSize (window.editor.fontSize - 1)
    | .reset => window.editor.resetFontSize
  { window with editor }.persist Preferences.fontSizeKey
    (.integer editor.fontSize)

/-- Turns the wrapping of long lines on or off, away from what the menu shows. -/
def toggleWrap (window : Window) : Window :=
  let wraps := !window.preferences.wordWrap
  let editor := window.editor.setWrapping wraps
  { window with editor }.persist Preferences.wordWrapKey (.bool wraps)

/-- Reindents the document and reports how many lines changed. -/
def reindent (window : Window) : Window :=
  let (outcome, count) := window.editor.reindentDocument
  { window.follow outcome with
    status :=
      Text.ofString "Reindented " ++ Text.ofNat count ++
        Text.ofString " line(s)" }

/-- Comments the selected lines out, or uncomments them. -/
def toggleComment (window : Window) : Window :=
  window.follow window.editor.toggleComment

end ClauseEditor.Window
