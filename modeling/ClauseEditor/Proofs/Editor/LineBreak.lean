import ClauseEditor.Proofs.Document.Typing
import ClauseEditor.Proofs.Editor.Reindentation
import ClauseEditor.Proofs.Indent.Recall

/-!
# Breaking a line

Breaking a line puts a separator in the place of the selection and moves the
line that this begins to its column, all in one edit block.  The memo is not
cut back before the block ends.  So when the column is computed the memo is
coherent with the lines above the break only, and may remember a boundary
after the broken line from before the break: the new line goes to the column
that `Memo.recalled` leads to.

The change of the break stands on record, so the end of the edit block cuts
the memo back to where it is coherent, and the editor stays sound.
-/

namespace ClauseEditor.Editor

open Document
open ClauseEditor.Indent

/-- The edit block of a line break before the new line is moved. -/
def broken (editor : Editor) : Reindenting :=
  ⟨editor.draft.type (Text.ofString "\n"), editor.memo⟩

/-- The number of the line that a line break begins. -/
def newLine (editor : Editor) : Nat :=
  lineAt editor.content editor.cursor.first + 1

/-- The new line moved to its column, and where the cursor goes in it. -/
def breaking (editor : Editor) : Reindenting × Nat :=
  editor.broken.alignLine editor.style editor.newLine
    (columnAt editor.broken.draft.content editor.broken.draft.cursor.position)

theorem contentOf_lineFeed : contentOf (Text.ofString "\n") = [separator] := by
  decide

variable {editor : Editor}

section Broken

variable (sound : editor.Sound)

include sound

theorem first_le : editor.cursor.first ≤ editor.content.length :=
  Nat.le_trans (Nat.min_le_left _ _) sound.position_le

theorem content_broken :
    editor.broken.draft.content =
      editor.content.take editor.cursor.first ++ [separator] ++
        editor.content.drop editor.cursor.last := by
  rw [broken, Draft.content_type sound.position_le sound.anchor_le,
    contentOf_lineFeed]
  rfl

theorem position_broken :
    editor.broken.draft.cursor.position = editor.cursor.first + 1 := by
  rw [broken, Draft.position_type sound.position_le sound.anchor_le] <;>
    rw [contentOf_lineFeed]
  · rfl
  · exact List.cons_ne_nil separator []

theorem isFrom_broken : editor.broken.draft.IsFrom editor.content :=
  sound.draft.type (Text.ofString "\n")

theorem settled_broken : Settled editor.broken.draft.content :=
  Draft.settled_type sound.settled _

/-- Nothing changes up to the break. -/
theorem take_broken :
    editor.broken.draft.content.take editor.cursor.first =
      editor.content.take editor.cursor.first := by
  have length := List.length_take_of_le (first_le sound)
  rw [content_broken sound, List.append_assoc,
    List.take_append_of_le_length (Nat.le_of_eq length.symm),
    List.take_take, Nat.min_self]

theorem lineAt_broken :
    lineAt editor.broken.draft.content editor.broken.draft.cursor.position =
      editor.newLine := by
  have length :
      (editor.content.take editor.cursor.first ++ [separator]).length =
        editor.cursor.first + 1 := by
    rw [List.length_append, List.length_take_of_le (first_le sound)]
    rfl
  rw [position_broken sound, lineAt, content_broken sound, ← length,
    List.take_left, List.count_append, newLine, lineAt]
  rfl

theorem newLine_lt :
    editor.newLine < (linesOf editor.broken.draft.content).length := by
  rw [← lineAt_broken sound]
  exact lineAt_lt_length _ _

/-- The break comes before the line that it begins. -/
theorem first_lt_lineStart :
    editor.cursor.first <
      lineStart editor.broken.draft.content editor.newLine := by
  refine lt_lineStart_of_lineAt_lt (newLine_lt sound) ?_
  rw [lineAt, take_broken sound]
  exact Nat.lt_succ_self _

/-- The lines above the broken one are what they were. -/
theorem coherentBelow_broken :
    editor.memo.CoherentBelow editor.broken.texts
      (lineAt editor.content editor.cursor.first) := by
  have before := Memo.coherent_iff.mp sound.coherent
    (lineAt editor.content editor.cursor.first)
  exact before.congr (take_textsOf_of_take_eq (take_broken sound).symm)

end Broken

/-! ## The edit block -/

section Breaking

variable (sound : editor.Sound)

include sound

theorem isFrom_breaking :
    editor.breaking.1.draft.IsFrom editor.content := by
  rw [breaking]
  exact Reindenting.alignLine_isFrom (newLine_lt sound) (isFrom_broken sound)

theorem settled_breaking : Settled editor.breaking.1.draft.content := by
  rw [breaking]
  exact Reindenting.alignLine_settled (settled_broken sound)

theorem position_breaking_le :
    lineStart editor.breaking.1.draft.content editor.newLine +
        editor.breaking.2 ≤
      editor.breaking.1.draft.content.length := by
  rw [breaking]
  exact Reindenting.alignLine_position_le (newLine_lt sound)

theorem column_breaking_le :
    ∃ still :
        editor.newLine < (linesOf editor.breaking.1.draft.content).length,
      editor.breaking.2 ≤
        (linesOf editor.breaking.1.draft.content)[editor.newLine].length := by
  rw [breaking]
  exact Reindenting.alignLine_column_le (newLine_lt sound)

/-- The break is a change of the edit block. -/
theorem mem_changes_breaking :
    .insert editor.cursor.first [separator] ∈
      editor.breaking.1.draft.changes := by
  rw [breaking]
  refine Reindenting.mem_changes_alignLine ?_
  rw [← contentOf_lineFeed]
  refine Draft.mem_changes_type sound.position_le sound.anchor_le ?_
  rw [contentOf_lineFeed]
  exact List.cons_ne_nil separator []

/-- Moving the new line changes nothing above it. -/
theorem take_breaking :
    editor.breaking.1.draft.content.take editor.cursor.first =
      editor.content.take editor.cursor.first := by
  have start :
      editor.breaking.1.draft.content.take
          (lineStart editor.broken.draft.content editor.newLine) =
        editor.broken.draft.content.take
          (lineStart editor.broken.draft.content editor.newLine) := by
    rw [breaking]
    exact Reindenting.alignLine_take (newLine_lt sound)
  have before := Nat.le_of_lt (first_lt_lineStart sound)
  have cut := congrArg (List.take editor.cursor.first) start
  rwa [List.take_take, List.take_take, Nat.min_eq_left before,
    take_broken sound] at cut

/-- The column to which the new line is moved. -/
theorem columnOf_broken :
    (columnOf editor.broken.memo editor.broken.texts editor.newLine
        editor.style).1 =
      columnBelow editor.style editor.broken.texts editor.newLine
        (editor.memo.recalled editor.broken.texts
          (lineAt editor.content editor.cursor.first)) := by
  refine columnOf_fst_recalled (coherentBelow_broken sound) ?_ editor.style
  rw [length_textsOf]
  exact newLine_lt sound

theorem texts_breaking :
    editor.breaking.1.texts =
      editor.broken.texts.set editor.newLine
        (editor.broken.placed editor.style
          editor.newLine
          (columnAt editor.broken.draft.content
            editor.broken.draft.cursor.position)).line := by
  rw [breaking]
  exact Reindenting.alignLine_texts (newLine_lt sound)

/-- Moving the new line makes no difference to any boundary. -/
theorem linesAlike_breaking :
    LinesAlike editor.broken.texts editor.breaking.1.texts := by
  rw [texts_breaking sound]
  exact .set _ _
    (Reindenting.alike_placed editor.broken
      editor.style editor.newLine _)

/-- The memo stays right about the lines above the broken one. -/
theorem coherentBelow_breaking :
    editor.breaking.1.memo.CoherentBelow editor.breaking.1.texts
      (lineAt editor.content editor.cursor.first) := by
  have asked :=
    columnOf_snd (coherentBelow_broken sound) editor.newLine editor.style
  have kept :
      editor.broken.texts.take
          (lineAt editor.content editor.cursor.first) =
        editor.breaking.1.texts.take
          (lineAt editor.content editor.cursor.first) := by
    rw [texts_breaking sound, newLine,
      List.take_set_of_le (Nat.le_succ _)]
  rw [breaking, Reindenting.alignLine_memo, ← breaking]
  exact asked.congr kept

/-- The end of the edit block cuts the memo back to the break. -/
theorem coherent_breaking :
    (editor.breaking.1.draft.cutMemo editor.breaking.1.memo).Coherent
      editor.breaking.1.texts := by
  refine Draft.coherent_cutMemo_of_below (mem_changes_breaking sound) ?_
  have line :
      lineAt editor.breaking.1.draft.content editor.cursor.first =
        lineAt editor.content editor.cursor.first := by
    rw [lineAt, take_breaking sound, lineAt]
  rw [Change.insert, line]
  exact coherentBelow_breaking sound

theorem breakLine_eq :
    editor.breakLine =
      (editor.finishReindenting editor.breaking.1).andThen fun next =>
        next.placeCursor
          (.atPosition
            (lineStart next.content editor.newLine + editor.breaking.2)) := by
  rw [breaking, ← lineAt_broken sound, broken, Editor.breakLine]

theorem Sound.breakLine : editor.breakLine.editor.Sound := by
  have finished :
      (editor.finishReindenting editor.breaking.1).editor.Sound :=
    sound.finish (isFrom_breaking sound) (settled_breaking sound)
      (coherent_breaking sound) sound.cursor_inside
  rw [breakLine_eq sound]
  exact finished.enterLine (isFrom_breaking sound)
    (position_breaking_le sound)

/-! ## The new line -/

theorem content_breakLine :
    editor.breakLine.editor.content = editor.breaking.1.draft.content := by
  rw [breakLine_eq sound, content_enterLine]
  exact content_finishReindenting (isFrom_breaking sound)

theorem lines_breakLine :
    editor.breakLine.editor.document.lines = editor.breaking.1.texts :=
  congrArg textsOf (content_breakLine sound)

theorem newLine_lt_length_lines :
    editor.newLine < editor.breakLine.editor.document.lines.length := by
  rw [lines_breakLine sound, ← (linesAlike_breaking sound).length_eq,
    length_textsOf]
  exact newLine_lt sound

/--
The new line stands at the column that it would have below the boundary that
the memo remembers, or else below the right one.
-/
theorem marginWidth_newLine :
    marginWidth editor.style.tabWidth
        (editor.breakLine.editor.document.lines.getD editor.newLine []) =
      columnBelow editor.style editor.breakLine.editor.document.lines
        editor.newLine
        (editor.memo.recalled editor.breakLine.editor.document.lines
          (lineAt editor.content editor.cursor.first)) := by
  have alike := linesAlike_breaking sound
  have listed :
      editor.newLine < editor.broken.texts.length := by
    rw [length_textsOf]
    exact newLine_lt sound
  have boundary :
      editor.memo.recalled editor.breaking.1.texts
          (lineAt editor.content editor.cursor.first) =
        editor.memo.recalled editor.broken.texts
          (lineAt editor.content editor.cursor.first) := by
    rw [Memo.recalled, Memo.recalled, alike.boundaryAt_eq]
  rw [lines_breakLine sound, boundary, ← alike.columnBelow_eq,
    texts_breaking sound, List.getD_eq_getElem?_getD,
    List.getElem?_set_self listed, Option.getD_some, Reindenting.placed,
    marginWidth_aligned, columnOf_broken sound]
  exact Int.max_eq_right (columnFrom_nonneg _ _ _)

end Breaking

end ClauseEditor.Editor
