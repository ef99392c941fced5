import ClauseEditor.Commenting
import ClauseEditor.Editor.Reindenting
import ClauseEditor.Indent.Outdent

/-!
# Editing lines in the editor

The commands that comment lines out and take a level of indentation off act
on all lines that the selection touches, as one step of the history.  A line
whose start is the end of a selection of several lines is not commented out.
-/

namespace ClauseEditor.Editor

open Document

/-- The numbers of the lines that commenting acts on. -/
def commentedLines (editor : Editor) : List Nat :=
  let content := editor.content
  let first := lineAt content editor.cursor.first
  let last := lineAt content editor.cursor.last
  let last :=
    if first < last ∧ editor.cursor.last = lineStart content last then
      last - 1
    else last
  List.range' first (last + 1 - first)

/--
Replaces lines that stand one after another, the first at `first`, each by
its new text; a line that stays the same is not touched.
-/
def replaceLines (draft : Draft) (first : Nat) : List (Text × Text) → Draft
  | [] => draft
  | (old, new) :: lines =>
    let draft :=
      if old = new then draft
      else
        (draft.remove first (first + (Utf16.encode old).length)).insert first
          new
    replaceLines draft (first + (contentOf new).length + 1) lines

/-- Comments lines out, or uncomments them. -/
def toggleComment (editor : Editor) : Outcome :=
  let numbers := editor.commentedLines
  let texts := textsOf editor.content
  let old := numbers.map fun line => texts.getD line []
  let new := Commenting.toggle editor.mode.lineComment old
  let first := lineStart editor.content (numbers.headD 0)
  editor.finish (replaceLines editor.draft first (old.zip new)) editor.memo
    (.block (some editor.cursor.position))

/-- Takes one level of indentation off a line. -/
def outdentLine (unit : Text) (draft : Draft) (line : Nat) : Draft :=
  let text := (textsOf draft.content).getD line []
  let first := lineStart draft.content line
  let cut := text.length - (Indent.outdent unit text).length
  draft.remove first (first + cut)

/-- Takes one level of indentation off the lines that the selection touches. -/
def outdentSelection (editor : Editor) : Outcome :=
  editor.finish
    (editor.selectedLines.foldl (outdentLine editor.indentText) editor.draft)
    editor.memo (.block (some editor.cursor.position))

end ClauseEditor.Editor
