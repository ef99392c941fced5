import ClauseEditor.Proofs.Editor.Tidying

/-!
# What reindenting leaves alone

Wherever the column of a line comes from, moving the line there replaces its
margin and nothing else.  So the contents of the lines, which is what stands
behind their margins, are the same before and after, and there are as many
lines.  Reindenting the whole document also empties blank lines.

Breaking a line puts one separator in the place of the selection.  The lines
of the document then have the contents that this alone would give them.
-/

namespace ClauseEditor

namespace Indent

/-- What is left of the contents when blank lines are emptied. -/
def visibleContent (line : Text) : Text :=
  if Text.isBlank line then [] else content line

/-- Tidying lines that hold no carriage return changes margins and blanks only. -/
theorem map_content_tidiedLines
    (style : Style)
    {lines : List Text}
    (whole : ∀ line ∈ lines, CodePoint.ofChar '\r' ∉ line) :
    (tidiedLines style lines).map content = lines.map visibleContent := by
  apply List.ext_getElem?
  intro number
  rw [List.getElem?_map, List.getElem?_map, tidiedLines, List.getElem?_mapIdx]
  cases found : lines[number]? with
  | none => rfl
  | some line =>
      rw [Option.map_some, Option.map_some, Option.map_some, tidied,
        visibleContent]
      split
      · have absent := whole line (List.mem_of_getElem? found)
        have last : line.getLast? ≠ some (CodePoint.ofChar '\r') :=
          fun last => absent (List.mem_of_getLast? last)
        rw [emptied, if_neg last]
        rfl
      · rw [content_aligned]

end Indent

namespace Editor

open Document
open Indent

namespace Reindenting

variable
    {content : List CodeUnit}
    {reindenting : Reindenting}
    {style : Style}
    {line : Nat}

/-- Moving a line keeps what stands behind the margins. -/
theorem map_content_alignLine
    (present : line < (linesOf reindenting.draft.content).length)
    (column : Nat) :
    (reindenting.alignLine style line column).1.texts.map Indent.content =
      reindenting.texts.map Indent.content := by
  have listed : line < reindenting.texts.length := by
    rwa [length_textsOf]
  have mapped :
      line < (reindenting.texts.map Indent.content).length := by
    rwa [List.length_map]
  have own :
      Indent.content (reindenting.lineText line) =
        (reindenting.texts.map Indent.content)[line] := by
    rw [lineText_eq, List.getD_eq_getElem _ _ listed, List.getElem_map]
  rw [texts, alignLine_texts present, List.map_set, placed, content_aligned,
    own, List.set_getElem_self]

theorem map_content_alignContent
    (present : line < (linesOf reindenting.draft.content).length) :
    (alignContent style reindenting line).texts.map Indent.content =
      reindenting.texts.map Indent.content := by
  rw [alignContent]
  split
  · rfl
  · exact map_content_alignLine present 0

theorem map_content_foldl_alignContent
    {numbers : List Nat}
    (present : ∀ line ∈ numbers, line < reindenting.texts.length) :
    (numbers.foldl (alignContent style) reindenting).texts.map
        Indent.content =
      reindenting.texts.map Indent.content := by
  induction numbers generalizing reindenting with
  | nil => rfl
  | cons line numbers induction =>
      have first := present line List.mem_cons_self
      have rest :
          ∀ other ∈ numbers,
            other < (alignContent style reindenting line).texts.length := by
        intro other member
        rw [alignContent_length first style]
        exact present other (List.mem_cons_of_mem line member)
      rw [List.foldl_cons, induction rest]
      rw [length_textsOf] at first
      exact map_content_alignContent first

end Reindenting

section Commands

variable {editor : Editor}

theorem Sound.map_content_reindentLine (sound : editor.Sound) :
    editor.reindentLine.editor.document.lines.map Indent.content =
      editor.document.lines.map Indent.content := by
  rw [sound.lines_reindentLine]
  exact Reindenting.map_content_alignLine
    (lineAt_lt_length editor.content editor.cursor.position) _

theorem Sound.map_content_reindentSelection (sound : editor.Sound) :
    editor.reindentSelection.editor.document.lines.map Indent.content =
      editor.document.lines.map Indent.content := by
  rw [sound.lines_reindentSelection]
  exact Reindenting.map_content_foldl_alignContent
    mem_selectedLines_lt_length

theorem Sound.map_content_reindentDocument (sound : editor.Sound) :
    editor.reindentDocument.1.editor.document.lines.map Indent.content =
      editor.document.lines.map visibleContent := by
  rw [sound.lines_reindentDocument]
  exact map_content_tidiedLines editor.style fun _ listed =>
    sound.settled.notMem_textsOf listed (Or.inr rfl)

theorem Sound.map_content_breakLine (sound : editor.Sound) :
    editor.breakLine.editor.document.lines.map Indent.content =
      (textsOf
        (editor.content.take editor.cursor.first ++ [separator] ++
          editor.content.drop editor.cursor.last)).map Indent.content := by
  rw [lines_breakLine sound, ← content_broken sound, breaking]
  exact Reindenting.map_content_alignLine (newLine_lt sound) _

end Commands

/--
Reindenting a line or the selection of a session keeps every line but for its
margin; reindenting the document does so too, but empties blank lines; and a
line break changes nothing but margins beside putting a separator in the place
of the selection.
-/
theorem content_kept_session
    (palette : Palette)
    (mode : Language.Mode)
    (text : Text)
    (commands : List Command) :
    let editor := session palette mode text commands
    let old := editor.document.lines
    let contents (outcome : Outcome) :=
      outcome.editor.document.lines.map Indent.content
    contents editor.reindentLine = old.map Indent.content ∧
      contents editor.reindentSelection = old.map Indent.content ∧
      contents editor.reindentDocument.1 =
        old.map (fun line =>
          if Text.isBlank line then [] else Indent.content line) ∧
      contents editor.breakLine =
        (textsOf
          (editor.content.take editor.cursor.first ++ [separator] ++
            editor.content.drop editor.cursor.last)).map Indent.content := by
  have sound := sound_session palette mode text commands
  exact
    ⟨sound.map_content_reindentLine, sound.map_content_reindentSelection,
      sound.map_content_reindentDocument, sound.map_content_breakLine⟩

/-- The first half of a surrogate pair is selected, behind a tab. -/
example :
    let editor :=
      session .dark .scallop
        (CodePoint.ofChar '(' :: CodePoint.ofChar '\n' ::
          CodePoint.ofChar '\t' :: [CodePoint.ofNat 0x1F600])
        [.select 4 3]
    editor.breakLine.editor.document.lines =
      [Text.ofString "(", Text.ofString "\t",
        Text.ofString "  " ++ [CodePoint.ofNat 0xDE00]] := by
  decide +kernel

end Editor

end ClauseEditor
