import ClauseEditor.Proofs.Editor.Session

/-!
# Where a line break puts the new line

The new line of a line break belongs at the column that an empty memo
computes for it in the document after the break.  The memo of the editor
computes another one in one case only: it remembers the boundary after the
broken line, and that line as it was before the break leads to another column
than what the break has left of it.
-/

namespace ClauseEditor.Editor

open Document
open ClauseEditor.Indent

/-- After a line break the cursor is in the new line. -/
theorem Sound.cursorLine_breakLine
    {editor : Editor}
    (sound : editor.Sound) :
    editor.breakLine.editor.cursorLine = editor.newLine := by
  rcases column_breaking_le sound with ⟨still, within⟩
  have position :
      editor.breakLine.editor.cursor.position =
        lineStart editor.breaking.1.draft.content editor.newLine +
          editor.breaking.2 := by
    rw [← content_finishReindenting (isFrom_breaking sound),
      breakLine_eq sound]
    rfl
  rw [cursorLine, content_breakLine sound, position]
  exact lineAt_lineStart_add still within

/-- The column at which the new line belongs. -/
theorem Sound.columnOf_newLine
    {editor : Editor}
    (sound : editor.Sound) :
    (columnOf .empty editor.breakLine.editor.document.lines editor.newLine
        editor.style).1 =
      columnBelow editor.style editor.breakLine.editor.document.lines
        editor.newLine
        (boundaryAt editor.breakLine.editor.document.lines
          editor.newLine) := by
  have within := Nat.le_of_lt (newLine_lt_length_lines sound)
  rw [columnOf_empty, columnIn_natCast within]

/--
The line that a line break in a session begins stands at the column that an
empty memo computes for it, unless the memo remembers the boundary after the
broken line: then it stands at the column that the line as it was leads to,
and this need not be the right one.
-/
theorem newLine_column_session
    (palette : Palette)
    (mode : Language.Mode)
    (text : Text)
    (commands : List Command) :
    let editor := session palette mode text commands
    let line := lineAt editor.content editor.cursor.first
    let old := editor.document.lines
    let broken := editor.breakLine.editor
    let new := broken.document.lines
    let width :=
      marginWidth editor.style.tabWidth (new.getD broken.cursorLine [])
    let right := (columnOf .empty new broken.cursorLine editor.style).1
    let columnFor (lines : List Text) :=
      columnBelow editor.style new (line + 1) (boundaryAt lines (line + 1))
    broken.cursorLine = line + 1 ∧
      (editor.memo.size ≤ line → width = right) ∧
      (line < editor.memo.size → width = columnFor old) ∧
      (width = right ↔
        (line < editor.memo.size → columnFor old = columnFor new)) := by
  have sound := sound_session palette mode text commands
  generalize session palette mode text commands = editor at sound ⊢
  dsimp only
  rw [sound.cursorLine_breakLine, sound.columnOf_newLine,
    marginWidth_newLine sound, newLine]
  generalize editor.breakLine.editor.document.lines = new
  refine ⟨rfl, ?_, ?_, ?_⟩
  · intro short
    rw [Memo.recalled_of_size_le short]
  · intro covered
    rw [Memo.recalled_of_coherent sound.coherent covered]
  · rcases Nat.lt_or_ge (lineAt editor.content editor.cursor.first)
      editor.memo.size with covered | short
    · rw [Memo.recalled_of_coherent sound.coherent covered]
      exact ⟨fun agrees _ => agrees, fun agrees => agrees covered⟩
    · rw [Memo.recalled_of_size_le short]
      exact ⟨fun _ covered => absurd covered (Nat.not_lt_of_ge short),
        fun _ => rfl⟩

/-- A break in front of a bracket that the memo has gone past. -/
theorem newLine_column_stale :
    let editor :=
      session .dark .scallop (Text.ofString "(\n  b")
        [.selectEnd, .reindentLine, .select 0 0]
    let broken := editor.breakLine.editor
    let new := broken.document.lines
    marginWidth editor.style.tabWidth (new.getD broken.cursorLine []) = 2 ∧
      (columnOf .empty new broken.cursorLine editor.style).1 = 0 := by
  decide +kernel

end ClauseEditor.Editor
