import ClauseEditor.Proofs.Document.Places
import ClauseEditor.Proofs.Editor.Session
import ClauseEditor.Proofs.Indent.CursorColumn

/-!
# The cursor in its line

Reindenting a line and breaking one both end with the cursor in the line that
was moved, at the column that moving the line gave for it, and without a
selection.

When the line of the cursor is reindented, a cursor in the text of the line
keeps its distance from the end of the line, in positions of the document, if
it is far enough away.  The line counts its characters in code points, so a
cursor is drawn back to where as many positions are left as there are
characters that take two of them.

When a line is broken, the cursor goes behind the margin of the new line if
that margin is new.  If the rest of the broken line begins with a margin of the
right width already, the cursor stays in front of it.
-/

namespace ClauseEditor.Editor

open Document
open ClauseEditor.Indent

/-- The text of the line that the cursor is in. -/
def currentLine (editor : Editor) : Text :=
  editor.document.lines.getD editor.cursorLine []

/-- How many positions the cursor stands in front of the end of its line. -/
def distanceToLineEnd (editor : Editor) : Nat :=
  (Utf16.encode editor.currentLine).length - editor.cursorColumn

theorem Sound.cursorColumn_le
    {editor : Editor}
    (sound : editor.Sound) :
    editor.cursorColumn ≤ (Utf16.encode editor.currentLine).length :=
  columnAt_le sound.position_le

/-! ## Entering a line that was moved -/

/-- The cursor stands in a line as it goes along with what the line becomes. -/
structure StandsAt (editor : Editor) (line : Nat) (placed : Placed) : Prop where
  hasSelection_eq : editor.cursor.hasSelection = false
  cursorLine_eq : editor.cursorLine = line
  currentLine_eq : editor.currentLine = placed.line
  cursorColumn_eq : editor.cursorColumn = placed.column

theorem standsAt_of_cursor_eq
    {editor : Editor}
    {line : Nat}
    {placed : Placed}
    (present : line < (linesOf editor.content).length)
    (text : editor.document.lines.getD line [] = placed.line)
    (within : placed.column ≤ placed.line.length)
    (cursor :
      editor.cursor =
        .atPosition (lineStart editor.content line + placed.column)) :
    editor.StandsAt line placed := by
  have inside : placed.column ≤ (linesOf editor.content)[line].length := by
    rw [← encode_getD_textsOf present, ← lines, text]
    exact Nat.le_trans within (Utf16.length_le_length_encode placed.line)
  have cursorLine : editor.cursorLine = line := by
    rw [Editor.cursorLine, cursor]
    exact lineAt_lineStart_add present inside
  constructor
  · rw [cursor]
    exact decide_eq_false fun differs => differs rfl
  · exact cursorLine
  · rw [currentLine, cursorLine, text]
  · rw [Editor.cursorColumn, cursor]
    exact columnAt_lineStart_add present inside

/-- The cursor enters a line after the edit block that has moved the line. -/
theorem standsAt_enterLine
    {editor : Editor}
    {reindenting : Reindenting}
    (isFrom : reindenting.draft.IsFrom editor.content)
    {line : Nat}
    (present : line < (linesOf reindenting.draft.content).length)
    (style : Style)
    (column : Nat) :
    let moved := reindenting.alignLine style line column
    StandsAt
      ((editor.finishReindenting moved.1).andThen fun next =>
        next.placeCursor
          (.atPosition (lineStart next.content line + moved.2))).editor
      line (reindenting.placed style line column) := by
  intro moved
  have content :=
    (content_enterLine (editor.finishReindenting moved.1) line moved.2).trans
      (content_finishReindenting
        (Reindenting.alignLine_isFrom present isFrom))
  have texts := (congrArg textsOf content).trans
    (Reindenting.alignLine_texts present)
  have listed : line < (textsOf reindenting.draft.content).length := by
    rwa [length_textsOf]
  refine standsAt_of_cursor_eq ?_ ?_ ?_ ?_
  · rw [content, Reindenting.alignLine_length present]
    exact present
  · refine (congrArg (List.getD · line []) texts).trans ?_
    rw [List.getD_eq_getElem?_getD, List.getElem?_set_self listed,
      Option.getD_some]
  · exact Reindenting.column_aligned_le _ _ _ _
  · rw [← Reindenting.alignLine_column]
    rfl

/-! ## Reindenting the line of the cursor -/

section ReindentLine

variable {editor : Editor}

theorem Sound.standsAt_reindentLine (sound : editor.Sound) :
    StandsAt editor.reindentLine.editor editor.cursorLine
      (aligned editor.style.tabWidth editor.currentLine editor.cursorColumn
        (columnIn editor.style editor.document.lines editor.cursorLine)) := by
  have present : editor.cursorLine < (linesOf editor.content).length :=
    lineAt_lt_length editor.content editor.cursor.position
  have entered :=
    standsAt_enterLine sound.reindenting.isFrom present
      editor.style editor.cursorColumn
  rw [sound.reindenting.placed_eq] at entered
  exact entered

/-- The line stands at the column that an empty memo computes for it then. -/
theorem Sound.marginWidth_reindentLine (sound : editor.Sound) :
    marginWidth editor.style.tabWidth
        editor.reindentLine.editor.currentLine =
      (columnOf .empty editor.reindentLine.editor.document.lines
        editor.reindentLine.editor.cursorLine editor.style).1 := by
  have present : editor.cursorLine < (linesOf editor.content).length :=
    lineAt_lt_length editor.content editor.cursor.position
  have stands := sound.standsAt_reindentLine
  have alike :
      LinesAlike editor.document.lines
        editor.reindentLine.editor.document.lines := by
    rw [sound.lines_reindentLine, Reindenting.texts,
      Reindenting.alignLine_texts present, sound.reindenting.placed_eq]
    exact .set _ _ (.aligned _ _ _ _)
  rw [columnOf_empty, stands.cursorLine_eq, ← alike.columnIn_eq,
    stands.currentLine_eq, marginWidth_aligned]
  exact Int.max_eq_right (columnFrom_nonneg _ _ _)

end ReindentLine

/--
When the line of the cursor is reindented in a session and the cursor stands
behind the margin, it stays in its line at its distance from the end, unless
the line has more characters of two units than there are positions behind the
cursor: then it goes to where that many positions are behind it.
-/
theorem reindentLine_cursor_session
    (palette : Palette)
    (mode : Language.Mode)
    (text : Text)
    (commands : List Command)
    (behind :
      let editor := session palette mode text commands
      (margin editor.currentLine).length ≤ editor.cursorColumn) :
    let editor := session palette mode text commands
    let reindented := editor.reindentLine.editor
    let excess := editor.currentLine.countP Utf16.takesTwo
    reindented.cursor.hasSelection = false ∧
      reindented.cursorLine = editor.cursorLine ∧
      reindented.distanceToLineEnd = max editor.distanceToLineEnd excess ∧
      (reindented.distanceToLineEnd = editor.distanceToLineEnd ↔
        excess ≤ editor.distanceToLineEnd) := by
  have sound := sound_session palette mode text commands
  generalize session palette mode text commands = editor at sound behind ⊢
  intro editor reindented excess
  have stands := sound.standsAt_reindentLine
  have distance : reindented.distanceToLineEnd =
      max editor.distanceToLineEnd excess := by
    rw [distanceToLineEnd, stands.currentLine_eq, stands.cursorColumn_eq]
    exact length_sub_column_aligned _ _ behind sound.cursorColumn_le
  refine ⟨stands.hasSelection_eq, stands.cursorLine_eq, distance, ?_⟩
  omega

/-- In front of the last character, with one of two units on the line. -/
theorem reindentLine_cursor_sample :
    let editor :=
      session .dark .scallop
        (Text.ofString "(\n " ++
          [CodePoint.ofNat 0x1F600, CodePoint.ofChar 'b'])
        [.select 5 5]
    let reindented := editor.reindentLine.editor
    reindented.currentLine ≠ editor.currentLine ∧
      reindented.cursorLine = editor.cursorLine ∧
      reindented.distanceToLineEnd = editor.distanceToLineEnd := by
  have moved :=
    reindentLine_cursor_session .dark .scallop
      (Text.ofString "(\n " ++
        [CodePoint.ofNat 0x1F600, CodePoint.ofChar 'b'])
      [.select 5 5] (by decide +kernel)
  exact ⟨by decide +kernel, moved.2.1,
    moved.2.2.2.2 (by decide +kernel)⟩

/-- Behind a character of two units at the end of a line. -/
theorem reindentLine_cursor_drawn_back :
    let editor :=
      session .dark .scallop
        [CodePoint.ofChar 'a', CodePoint.ofNat 0x1F600] [.selectEnd]
    let reindented := editor.reindentLine.editor
    (margin editor.currentLine).length < editor.cursorColumn ∧
      editor.distanceToLineEnd = 0 ∧ reindented.distanceToLineEnd = 1 := by
  decide +kernel

/-! ## Breaking a line -/

/-- What a line break by itself leaves for the new line. -/
def restOfLine (editor : Editor) : Text :=
  (textsOf
    (editor.content.take editor.cursor.first ++ [separator] ++
      editor.content.drop editor.cursor.last)).getD editor.newLine []

section BreakLine

variable
    {editor : Editor}
    (sound : editor.Sound)

include sound

/-- The cursor stands at the start of the line that it has begun. -/
theorem columnAt_broken :
    columnAt editor.broken.draft.content
      editor.broken.draft.cursor.position = 0 := by
  have start := first_lt_lineStart sound
  rw [columnAt, lineAt_broken sound, position_broken sound]
  omega

theorem Sound.standsAt_breakLine :
    ∃ target : Int,
      StandsAt editor.breakLine.editor editor.newLine
        (aligned editor.style.tabWidth editor.restOfLine 0 target) := by
  have entered :=
    standsAt_enterLine (isFrom_broken sound) (newLine_lt sound) editor.style 0
  have rest : editor.broken.lineText editor.newLine = editor.restOfLine := by
    rw [Reindenting.lineText, content_broken sound, restOfLine]
  rw [Reindenting.placed, rest] at entered
  refine ⟨(columnOf editor.broken.memo
    (textsOf editor.broken.draft.content) editor.newLine editor.style).1, ?_⟩
  rw [breakLine_eq sound, breaking, columnAt_broken sound]
  exact entered

theorem Sound.cursorColumn_breakLine :
    editor.breakLine.editor.cursorColumn =
      if marginWidth editor.style.tabWidth editor.restOfLine =
          marginWidth editor.style.tabWidth
            editor.breakLine.editor.currentLine then 0
      else (margin editor.breakLine.editor.currentLine).length := by
  obtain ⟨target, stands⟩ := sound.standsAt_breakLine
  rw [stands.cursorColumn_eq, stands.currentLine_eq]
  exact column_aligned_zero _ target editor.restOfLine

/-- A margin of the right width is kept as it is. -/
theorem Sound.currentLine_breakLine_of_marginWidth_eq
    (same :
      marginWidth editor.style.tabWidth editor.restOfLine =
        marginWidth editor.style.tabWidth
          editor.breakLine.editor.currentLine) :
    editor.breakLine.editor.currentLine = editor.restOfLine := by
  obtain ⟨target, stands⟩ := sound.standsAt_breakLine
  rw [stands.currentLine_eq] at same ⊢
  exact line_aligned_of_marginWidth_eq _ target same

end BreakLine

/--
After a line break in a session the cursor stands behind the margin of the new
line, unless what the break has left for the line has a margin of the width
that the line gets: then the cursor stands in front of that margin.
-/
theorem breakLine_cursor_session
    (palette : Palette)
    (mode : Language.Mode)
    (text : Text)
    (commands : List Command) :
    let editor := session palette mode text commands
    let broken := editor.breakLine.editor
    let width := marginWidth editor.style.tabWidth
    broken.cursor.hasSelection = false ∧
      broken.cursorLine = lineAt editor.content editor.cursor.first + 1 ∧
      broken.cursorColumn =
        (if width editor.restOfLine = width broken.currentLine then 0
        else (margin broken.currentLine).length) ∧
      (broken.cursorColumn = (margin broken.currentLine).length ↔
        (width editor.restOfLine = width broken.currentLine →
          margin editor.restOfLine = [])) := by
  have sound := sound_session palette mode text commands
  generalize session palette mode text commands = editor at sound ⊢
  have column := sound.cursorColumn_breakLine
  obtain ⟨target, stands⟩ := sound.standsAt_breakLine
  refine ⟨stands.hasSelection_eq, stands.cursorLine_eq, column, ?_⟩
  rw [column]
  split
  case isTrue same =>
    rw [sound.currentLine_breakLine_of_marginWidth_eq same, eq_comm,
      List.length_eq_zero_iff]
    exact ⟨fun nothing _ => nothing, fun nothing => nothing rfl⟩
  case isFalse differs =>
    exact ⟨fun _ same => absurd same differs, fun _ => rfl⟩

/-- A break in front of two blanks where the new line belongs at column two. -/
theorem breakLine_cursor_before_margin :
    let editor :=
      session .dark .scallop (Text.ofString "(  b") [.select 1 1]
    let broken := editor.breakLine.editor
    broken.currentLine = Text.ofString "  b" ∧
      (margin broken.currentLine).length = 2 ∧ broken.cursorColumn = 0 := by
  decide +kernel

end ClauseEditor.Editor
