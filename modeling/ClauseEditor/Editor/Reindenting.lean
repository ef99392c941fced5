import ClauseEditor.Editor.Basic

/-!
# Reindenting in the editor

Lines are moved to their columns by edits of their margins alone, several of
them in one edit block.  The column of a line is computed on the content as
the edits before have left it, with the memo as it was when the edit block
began.
-/

namespace ClauseEditor.Editor

open Document

/-- An edit block together with the memo that it extends. -/
structure Reindenting where
  draft : Draft
  memo : Indent.Memo

namespace Reindenting

/-- The text of a line. -/
def lineText (reindenting : Reindenting) (line : Nat) : Text :=
  (textsOf reindenting.draft.content).getD line []

/--
Moves a line to its column.  The second result is where a cursor at `column`
of the line belongs afterwards.
-/
def alignLine
    (reindenting : Reindenting)
    (style : Indent.Style)
    (line column : Nat) :
    Reindenting × Nat :=
  let draft := reindenting.draft
  let text := reindenting.lineText line
  let (target, memo) :=
    Indent.columnOf reindenting.memo (textsOf draft.content) line style
  let placed := Indent.aligned style.tabWidth text column target
  if placed.line = text then (⟨draft, memo⟩, placed.column)
  else
    let first := lineStart draft.content line
    let bare := draft.remove first (first + (Indent.margin text).length)
    (⟨bare.insert first (Indent.margin placed.line), memo⟩, placed.column)

/-- Moves a line to its column unless it is blank. -/
def alignContent
    (style : Indent.Style)
    (reindenting : Reindenting)
    (line : Nat) :
    Reindenting :=
  if Text.isBlank (reindenting.lineText line) then reindenting
  else (reindenting.alignLine style line 0).1

/-- Empties a blank line and moves any other to its column. -/
def tidyLine
    (style : Indent.Style)
    (reindenting : Reindenting)
    (line : Nat) :
    Reindenting :=
  let text := reindenting.lineText line
  if Text.isBlank text then
    let first := lineStart reindenting.draft.content line
    let width := (Utf16.encode text).length
    { reindenting with
      draft := reindenting.draft.remove first (first + width) }
  else (reindenting.alignLine style line 0).1

/-- Tidies lines one after another and counts those that change. -/
def tidyLines
    (style : Indent.Style)
    (reindenting : Reindenting) :
    List Nat → Reindenting × Nat
  | [] => (reindenting, 0)
  | line :: lines =>
    let tidied := reindenting.tidyLine style line
    let changed :=
      if tidied.lineText line = reindenting.lineText line then 0 else 1
    let (last, count) := tidied.tidyLines style lines
    (last, changed + count)

end Reindenting

/-- An edit block for reindenting. -/
def reindenting (editor : Editor) : Reindenting :=
  ⟨editor.draft, editor.memo⟩

/-- Ends an edit block for reindenting that the cursor began. -/
def finishReindenting (editor : Editor) (reindenting : Reindenting) : Outcome :=
  editor.finish reindenting.draft reindenting.memo
    (.block (some editor.cursor.position))

/-- The numbers of the lines that a selection touches. -/
def selectedLines (editor : Editor) : List Nat :=
  let first := lineAt editor.content editor.cursor.first
  let last := lineAt editor.content editor.cursor.last
  List.range' first (last + 1 - first)

/-- Moves the line of the cursor to its column, and the cursor along. -/
def reindentLine (editor : Editor) : Outcome :=
  let line := editor.cursorLine
  let (reindenting, column) :=
    editor.reindenting.alignLine editor.style line editor.cursorColumn
  (editor.finishReindenting reindenting).andThen fun editor =>
    editor.placeCursor (.atPosition (lineStart editor.content line + column))

/-- Moves all lines that the selection touches to their columns. -/
def reindentSelection (editor : Editor) : Outcome :=
  editor.finishReindenting
    (editor.selectedLines.foldl (Reindenting.alignContent editor.style)
      editor.reindenting)

/-- Reindents the whole document; the second result counts changed lines. -/
def reindentDocument (editor : Editor) : Outcome × Nat :=
  let lines := List.range (linesOf editor.content).length
  let (reindenting, count) :=
    editor.reindenting.tidyLines editor.style lines
  (editor.finishReindenting reindenting, count)

/--
Breaks the line at the cursor, in place of the selection, and moves the new
line to its column with the cursor in front of its content.
-/
def breakLine (editor : Editor) : Outcome :=
  let draft := editor.draft.type (Text.ofString "\n")
  let line := lineAt draft.content draft.cursor.position
  let column := columnAt draft.content draft.cursor.position
  let (reindenting, column) :=
    (Reindenting.mk draft editor.memo).alignLine editor.style line column
  (editor.finishReindenting reindenting).andThen fun editor =>
    editor.placeCursor (.atPosition (lineStart editor.content line + column))

end ClauseEditor.Editor
