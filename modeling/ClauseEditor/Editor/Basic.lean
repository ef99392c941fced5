import ClauseEditor.Document.History
import ClauseEditor.Indent.Margin
import ClauseEditor.Language.Registry
import ClauseEditor.Highlight.Line

/-!
# The editor

An editor shows one document and has one cursor in it.  It remembers line
boundaries in a memo, which is cut back to the first changed line at the end
of each edit block and not before.

The text area is as high as a number of rows that depends on the font size.
When the document is longer, the editor scrolls by whole lines, and no further
than needed, to where the cursor can be seen.

What happens to an editor is told as an outcome: the editor afterwards, and
the place of the cursor that was reported last, if one was.  A cursor that a
change has touched is reported even if it stands where it stood.

A step back or forth puts the cursor somewhere of its own accord, after the
changes have moved it along and that has been reported.  The new position is
reported as well, but only if it is another one than before the step.
-/

namespace ClauseEditor

structure Editor where
  document : Document
  cursor : Document.Cursor
  memo : Indent.Memo
  style : Indent.Style
  mode : Language.Mode
  palette : Palette
  fontSize : Int
  wraps : Bool
  /-- The number of the line at the top of the text area. -/
  firstShown : Nat

namespace Editor

open Document

/-- The editor after something happened, and what was reported of its cursor. -/
structure Outcome where
  editor : Editor
  /-- The place that was reported last. -/
  reported? : Option Place

/-- Nothing happened. -/
def stay (editor : Editor) : Outcome := ⟨editor, none⟩

/-- What happens next happens to the editor as it is then. -/
def Outcome.andThen (outcome : Outcome) (next : Editor → Outcome) : Outcome :=
  let last := next outcome.editor
  ⟨last.editor, last.reported?.or outcome.reported?⟩

/-- The font size that an editor starts with and can be put back to. -/
def standardFontSize : Int := 11

/-- An empty editor. -/
def start (palette : Palette) (mode : Language.Mode) : Editor where
  document := .ofText []
  cursor := .atPosition 0
  memo := .empty
  style := ⟨mode.indentUnit, Indent.Style.standard.tabWidth⟩
  mode := mode
  palette := palette
  fontSize := standardFontSize
  wraps := true
  firstShown := 0

/-! ## What an editor shows -/

abbrev content (editor : Editor) : List CodeUnit :=
  editor.document.content

/-- The document as plain text. -/
def text (editor : Editor) : Text :=
  plainText editor.content

/-- The number of the line that the cursor is in. -/
def cursorLine (editor : Editor) : Nat :=
  lineAt editor.content editor.cursor.position

/-- The distance of the cursor from the start of its line. -/
def cursorColumn (editor : Editor) : Nat :=
  columnAt editor.content editor.cursor.position

/-- One level of indentation. -/
def indentText (editor : Editor) : Text :=
  Text.spaces editor.style.unit.toNat

/-- The place of the cursor. -/
def place (editor : Editor) : Place :=
  placeAt editor.content editor.cursor.position

/-- The editor, with its cursor reported if that is called for. -/
def reporting (editor : Editor) (called : Bool) : Outcome :=
  ⟨editor, if called then some editor.place else none⟩

/-- The coloured lines of the document. -/
def colouredLines (editor : Editor) : List Highlight.ColouredLine :=
  Highlight.colourLines false (linesOf editor.content)

def lineCount (editor : Editor) : Nat :=
  (linesOf editor.content).length

/-- The numbers in the gutter, from the top of the text area to the last line. -/
def lineNumbers (editor : Editor) : List Nat :=
  (List.range' editor.firstShown (editor.lineCount - editor.firstShown)).map
    (· + 1)

/-- How many digits the gutter has room for. -/
def gutterDigits (editor : Editor) : Nat :=
  (Text.ofNat editor.lineCount).length

/-- The style sheet of the text area. -/
def styleSheet (editor : Editor) : Text :=
  Text.ofString "QPlainTextEdit \x7b background-color: " ++
    editor.palette.background.hex ++ Text.ofString "; color: " ++
    editor.palette.foreground.hex ++ Text.ofString "; \x7d"

/-! ## Scrolling -/

/-- The height of the text area, in pixels. -/
def viewHeight : Nat := 478

/-- The space above the first line of a document, in pixels. -/
def topMargin : Nat := 4

/--
The height of a row, in pixels, of which there are a hundred to the inch: the
font size, rounded, and nine parts in 64 of it between the rows, rounded up.
-/
def rowHeight (fontSize : Int) : Nat :=
  let size := (fontSize.toNat * 100 + 36) / 72
  size + (size * 9 + 63) / 64

/-- The number of rows that fit into the text area. -/
def shownRows (editor : Editor) : Nat :=
  viewHeight / rowHeight editor.fontSize

/--
The first line to be shown so that a line is the last one in the text area.
The start of the document needs room for its margin.
-/
def firstToShow (editor : Editor) (line : Nat) : Nat :=
  let height := (line + 1) * rowHeight editor.fontSize
  if height ≤ viewHeight then
    if topMargin + height ≤ viewHeight then 0 else min line 1
  else line + 1 - editor.shownRows

/-- Scrolls to where the line of the cursor can be seen. -/
def reveal (editor : Editor) : Editor :=
  let line := editor.cursorLine
  { editor with
    firstShown := min line (max editor.firstShown (editor.firstToShow line)) }

/-- The line of the cursor is not above the text area. -/
theorem firstShown_reveal_le (editor : Editor) :
    editor.reveal.firstShown ≤ editor.cursorLine :=
  Nat.min_le_left _ _

@[simp]
theorem reveal_document (editor : Editor) :
    editor.reveal.document = editor.document := rfl

@[simp]
theorem reveal_cursor (editor : Editor) :
    editor.reveal.cursor = editor.cursor := rfl

@[simp]
theorem reveal_memo (editor : Editor) :
    editor.reveal.memo = editor.memo := rfl

/-- Lets the line of the cursor be seen when something has happened. -/
def Outcome.revealed (outcome : Outcome) : Outcome :=
  ⟨outcome.editor.reveal, outcome.reported?⟩

/--
Scrolls by a turn of the wheel: three lines for every 120 units, no more than
a page at once, and not beyond the last line.
-/
def scroll (editor : Editor) (delta : Int) : Editor :=
  let page : Int := editor.shownRows
  let lines := max (-page) (min page (delta.tdiv 40))
  let top : Int := editor.firstShown - lines
  { editor with firstShown := min (editor.lineCount - 1) top.toNat }

/-! ## Basic operations -/

/-- Takes over the changes of a draft. -/
def finish
    (editor : Editor)
    (draft : Draft)
    (memo : Indent.Memo)
    (span : Span) :
    Outcome :=
  let memo :=
    match firstChanged? draft.changes with
    | none => memo
    | some position => memo.cutAt (lineAt draft.content position)
  let document := editor.document.commit draft span
  reporting { editor with document, cursor := draft.cursor, memo } draft.touched

/-- An edit block of the editor. -/
def draft (editor : Editor) : Draft :=
  .start editor.content editor.cursor

/--
Puts the cursor somewhere and lets it be seen; a new anchor alone is no move.
-/
def placeCursor (editor : Editor) (cursor : Cursor) : Outcome :=
  (reporting { editor with cursor }
    (editor.cursor.position ≠ cursor.position)).revealed

/-- Selects from `anchor` to `position`, both cut to the ends of the document. -/
def select (editor : Editor) (position anchor : Int) : Outcome :=
  let cut (p : Int) : Nat := min p.toNat editor.content.length
  editor.placeCursor ⟨cut position, cut anchor⟩

/-- Puts the cursor at the end of the document. -/
def selectEnd (editor : Editor) : Outcome :=
  editor.placeCursor (.atPosition editor.content.length)

/-- Gives the editor a new text and forgets the history. -/
def setText (editor : Editor) (text : Text) : Outcome :=
  reporting
    { editor with
      document := .ofText text
      cursor := .atPosition 0
      memo := .empty
      firstShown := 0 }
    true

/--
Ends a step back or forth, which leaves the cursor at `position`.  The changes
report the cursor where they have moved it to.
-/
def travel
    (editor : Editor)
    (document : Document)
    (draft : Draft)
    (position : Nat) :
    Outcome :=
  let memo :=
    match firstChanged? draft.changes with
    | none => editor.memo
    | some position => editor.memo.cutAt (lineAt draft.content position)
  let changed :=
    reporting { editor with document, cursor := draft.cursor, memo }
      draft.touched
  (changed.andThen fun next =>
    reporting { next with cursor := .atPosition position }
      (position ≠ editor.cursor.position)).revealed

/-- Takes the latest step back. -/
def undo (editor : Editor) : Outcome :=
  match editor.document.undo? editor.cursor with
  | none => editor.stay
  | some (document, step, draft) =>
    editor.travel document draft step.cursorAfterUndo

/-- Makes the step again that was taken back last. -/
def redo (editor : Editor) : Outcome :=
  match editor.document.redo? editor.cursor with
  | none => editor.stay
  | some (document, step, draft) =>
    editor.travel document draft step.cursorAfterRedo

/-! ## Appearance -/

/-- Sets the font size, which stays between 6 and 72 points. -/
def setFontSize (editor : Editor) (size : Int) : Editor :=
  { editor with fontSize := max 6 (min 72 size) }

def resetFontSize (editor : Editor) : Editor :=
  editor.setFontSize standardFontSize

/-- Lets long lines go on in the next row, or not. -/
def setWrapping (editor : Editor) (wraps : Bool) : Editor :=
  if editor.wraps = wraps then editor else reveal { editor with wraps }

/--
A turn of the wheel scrolls, or changes the font size by one point if Control
is held.
-/
def turnWheel (editor : Editor) (control : Bool) (delta : Int) : Editor :=
  if control = false then editor.scroll delta
  else if delta = 0 then editor
  else editor.setFontSize (editor.fontSize + (if 0 < delta then 1 else -1))

/-- Sets the columns of one level; there is at least one. -/
def setIndentWidth (editor : Editor) (width : Int) : Editor :=
  { editor with style := { editor.style with unit := max 1 width } }

/-- Changes the colours. -/
def setPalette (editor : Editor) (palette : Palette) : Editor :=
  { editor with palette }

/-- Changes the language; the columns of one level stay. -/
def setMode (editor : Editor) (mode : Language.Mode) : Editor :=
  { editor with mode }

end Editor

end ClauseEditor
