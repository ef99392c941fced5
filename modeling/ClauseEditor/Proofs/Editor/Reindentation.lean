import ClauseEditor.Proofs.Editor.EditBlocks
import ClauseEditor.Proofs.Editor.Passes

/-!
# Reindenting keeps editors sound

The edit block of a sound editor begins a sound reindenting, and a sound
reindenting ends in a sound editor, because its memo is coherent with the
lines as they stand.  So reindenting the line of the cursor, the lines of the
selection or the whole document keeps an editor sound.
-/

namespace ClauseEditor.Editor

open Document
open ClauseEditor.Indent

variable {editor : Editor}

theorem Sound.reindenting (sound : editor.Sound) :
    editor.reindenting.Sound editor.content :=
  ⟨sound.draft, sound.settled, sound.coherent⟩

theorem Sound.finishReindenting
    (sound : editor.Sound)
    {reindenting : Reindenting}
    (kept : reindenting.Sound editor.content) :
    (editor.finishReindenting reindenting).editor.Sound :=
  sound.finish kept.isFrom kept.settled
    (Draft.coherent_cutMemo_of_after kept.coherent) sound.cursor_inside

theorem content_finishReindenting
    {reindenting : Reindenting}
    (isFrom : reindenting.draft.IsFrom editor.content) :
    (editor.finishReindenting reindenting).editor.content =
      reindenting.draft.content :=
  content_finish isFrom

theorem content_enterLine
    (outcome : Outcome)
    (line column : Nat) :
    (outcome.andThen fun editor =>
      editor.placeCursor
        (.atPosition
          (lineStart editor.content line + column))).editor.content =
      outcome.editor.content := rfl

/-- The cursor goes into a line after the edit block has ended. -/
theorem Sound.enterLine
    {reindenting : Reindenting}
    (finished : (editor.finishReindenting reindenting).editor.Sound)
    (isFrom : reindenting.draft.IsFrom editor.content)
    {line column : Nat}
    (inside :
      lineStart reindenting.draft.content line + column ≤
        reindenting.draft.content.length) :
    ((editor.finishReindenting reindenting).andThen fun editor =>
      editor.placeCursor
        (.atPosition
          (lineStart editor.content line + column))).editor.Sound := by
  refine finished.atPosition ?_
  rw [content_finishReindenting isFrom]
  exact inside

/-- A selection touches lines of the document only. -/
theorem lt_of_mem_selectedLines
    {line : Nat}
    (selected : line ∈ editor.selectedLines) :
    line < (linesOf editor.content).length := by
  have last := lineAt_lt_length editor.content editor.cursor.last
  rw [selectedLines, List.mem_range'_1] at selected
  omega

theorem cursorLine_lt_length (editor : Editor) :
    editor.cursorLine < editor.reindenting.texts.length := by
  rw [length_textsOf]
  exact lineAt_lt_length editor.content editor.cursor.position

theorem Sound.reindentLine (sound : editor.Sound) :
    editor.reindentLine.editor.Sound := by
  have present : editor.cursorLine < (linesOf editor.content).length :=
    lineAt_lt_length editor.content editor.cursor.position
  have kept :=
    sound.reindenting.alignLine (cursorLine_lt_length editor) editor.style
      editor.cursorColumn
  exact (sound.finishReindenting kept).enterLine kept.isFrom
    (Reindenting.alignLine_position_le present)

/-- Reindenting the line of the cursor moves this line. -/
theorem Sound.lines_reindentLine (sound : editor.Sound) :
    editor.reindentLine.editor.document.lines =
      (editor.reindenting.alignLine editor.style editor.cursorLine
        editor.cursorColumn).1.texts := by
  have kept :=
    sound.reindenting.alignLine (cursorLine_lt_length editor) editor.style
      editor.cursorColumn
  exact congrArg textsOf (content_finishReindenting kept.isFrom)

theorem mem_selectedLines_lt_length :
    ∀ line ∈ editor.selectedLines,
      line < editor.reindenting.texts.length := by
  intro line selected
  rw [length_textsOf]
  exact lt_of_mem_selectedLines selected

theorem Sound.reindentSelection (sound : editor.Sound) :
    editor.reindentSelection.editor.Sound :=
  sound.finishReindenting
    (sound.reindenting.foldl_alignContent editor.style
      mem_selectedLines_lt_length)

/-- Reindenting the selection moves the lines that it touches. -/
theorem Sound.lines_reindentSelection (sound : editor.Sound) :
    editor.reindentSelection.editor.document.lines =
      (editor.selectedLines.foldl (Reindenting.alignContent editor.style)
        editor.reindenting).texts := by
  have kept :=
    sound.reindenting.foldl_alignContent editor.style
      mem_selectedLines_lt_length
  exact congrArg textsOf (content_finishReindenting kept.isFrom)

theorem Sound.reindentDocument (sound : editor.Sound) :
    editor.reindentDocument.1.editor.Sound := by
  refine sound.finishReindenting
    (sound.reindenting.tidyLines editor.style ?_).1
  intro line listed
  rw [length_textsOf]
  exact List.mem_range.mp listed

end ClauseEditor.Editor
