import ClauseEditor.Proofs.Editor.Session

/-!
# Reindenting the whole document

The pass over a document works on margins inside an edit block, with a memo
that has been filled by earlier commands; reindenting a text works on whole
lines, with a memo of its own.  Both tidy every line at the column that it has
in the document, so they agree.

A pass over tidy lines makes no change at all: the document, its history and
the cursor stay as they are, and only the memo may get longer.
-/

namespace ClauseEditor.Editor

open Document
open ClauseEditor.Indent

namespace Reindenting

variable
    {content : List CodeUnit}
    {reindenting : Reindenting}
    {style : Style}

/-- A line that is tidy already is not touched. -/
theorem Sound.draft_tidyLine_of_tidy
    (sound : reindenting.Sound content)
    {line : Nat}
    (present : line < reindenting.texts.length)
    (tidy :
      tidied style (columnIn style reindenting.texts line)
          (reindenting.lineText line) =
        reindenting.lineText line) :
    (reindenting.tidyLine style line).draft = reindenting.draft := by
  rw [Reindenting.tidyLine]
  dsimp only
  by_cases isBlank : Text.isBlank (reindenting.lineText line) = true
  · have empty : reindenting.lineText line = [] := by
      rw [← tidy, tidied, if_pos isBlank,
        emptied_of_settled sound.settled present]
    rw [if_pos isBlank, empty]
    have nothing :
        (Change.remove reindenting.draft.content
          (lineStart reindenting.draft.content line)
          (lineStart reindenting.draft.content line) false).units = [] := by
      rw [Change.remove, List.drop_eq_nil_iff]
      exact List.length_take_le _ _
    exact if_pos nothing
  · have same :
        (reindenting.placed style line 0).line =
          reindenting.lineText line := by
      rw [tidied, if_neg isBlank] at tidy
      rw [sound.placed_eq]
      exact tidy
    rw [if_neg isBlank, alignLine_draft, if_pos same]

/-- A pass over tidy lines makes no change and counts none. -/
theorem Sound.tidyLines_of_tidy
    (sound : reindenting.Sound content)
    {numbers : List Nat}
    (tidy :
      ∀ line ∈ numbers,
        line < reindenting.texts.length ∧
          tidied style (columnIn style reindenting.texts line)
              (reindenting.texts.getD line []) =
            reindenting.texts.getD line []) :
    (reindenting.tidyLines style numbers).1.draft = reindenting.draft ∧
      (reindenting.tidyLines style numbers).2 = 0 := by
  induction numbers generalizing reindenting with
  | nil => exact ⟨rfl, rfl⟩
  | cons line numbers induction =>
      rcases tidy line List.mem_cons_self with ⟨present, lineTidy⟩
      have same := sound.draft_tidyLine_of_tidy present lineTidy
      have texts :
          (reindenting.tidyLine style line).texts = reindenting.texts :=
        congrArg (fun draft => textsOf draft.content) same
      have rest :
          ∀ other ∈ numbers,
            other < (reindenting.tidyLine style line).texts.length ∧
              tidied style
                  (columnIn style (reindenting.tidyLine style line).texts
                    other)
                  ((reindenting.tidyLine style line).texts.getD other []) =
                (reindenting.tidyLine style line).texts.getD other [] := by
        intro other member
        rw [texts]
        exact tidy other (List.mem_cons_of_mem line member)
      rcases induction (sound.tidyLine present style) rest with ⟨kept, none⟩
      refine ⟨kept.trans same, ?_⟩
      rw [Reindenting.tidyLines]
      dsimp only
      rw [none, lineText_eq, lineText_eq, texts, if_pos rfl]

end Reindenting

section Document

variable {editor : Editor}

theorem mem_range_lines
    {line : Nat}
    (member : line ∈ List.range (linesOf editor.content).length) :
    line < editor.reindenting.texts.length := by
  rw [length_textsOf]
  exact List.mem_range.mp member

/-- Reindenting the document tidies every line. -/
theorem Sound.lines_reindentDocument (sound : editor.Sound) :
    editor.reindentDocument.1.editor.document.lines =
      tidiedLines editor.style editor.document.lines := by
  have pass :=
    sound.reindenting.tidyLines editor.style
      (fun _ member => mem_range_lines member)
  have held :
      editor.reindentDocument.1.editor.content =
        (editor.reindenting.tidyLines editor.style
          (List.range (linesOf editor.content).length)).1.draft.content :=
    content_finishReindenting pass.1.isFrom
  refine (congrArg textsOf held).trans (pass.2.trans ?_)
  rw [← length_textsOf]
  exact tidiedAt_range editor.style editor.reindenting.texts

/-- Reindenting the document counts the lines that it changes. -/
theorem Sound.count_reindentDocument (sound : editor.Sound) :
    editor.reindentDocument.2 =
      (List.range editor.document.lines.length).countP fun line =>
        editor.reindentDocument.1.editor.document.lines[line]? ≠
          editor.document.lines[line]? := by
  have counted :
      editor.reindentDocument.2 =
        (List.range (linesOf editor.content).length).countP fun line =>
          (tidiedAt editor.style editor.reindenting.texts
              (List.range (linesOf editor.content).length)).getD line [] ≠
            editor.reindenting.texts.getD line [] :=
    sound.reindenting.tidyLines_count editor.style
      (fun _ member => mem_range_lines member) List.nodup_range
  rw [counted, ← length_textsOf, sound.lines_reindentDocument]
  apply List.countP_congr
  intro line member
  have present : line < editor.document.lines.length :=
    List.mem_range.mp member
  have tidyPresent :
      line < (tidiedLines editor.style editor.document.lines).length := by
    rwa [← (linesAlike_tidiedLines editor.style
      editor.document.lines).length_eq]
  have tidy :
      tidiedAt editor.style editor.reindenting.texts
          (List.range (textsOf editor.content).length) =
        tidiedLines editor.style editor.document.lines :=
    tidiedAt_range editor.style editor.reindenting.texts
  have found {lines : List Text} (inside : line < lines.length) :
      lines[line]? = some (lines.getD line []) := by
    rw [List.getD_eq_getElem lines [] inside, List.getElem?_eq_getElem inside]
  rw [tidy, found present, found tidyPresent]
  simp only [ne_eq, Option.some.injEq]
  exact Iff.rfl

/-- Reindenting a tidy document only makes the memo longer. -/
theorem Sound.reindentDocument_of_tidy
    (sound : editor.Sound)
    (tidy :
      tidiedLines editor.style editor.document.lines =
        editor.document.lines) :
    ∃ memo : Memo,
      editor.reindentDocument = (stay { editor with memo }, 0) := by
  have each :
      ∀ line ∈ List.range (linesOf editor.content).length,
        line < editor.reindenting.texts.length ∧
          tidied editor.style
              (columnIn editor.style editor.reindenting.texts line)
              (editor.reindenting.texts.getD line []) =
            editor.reindenting.texts.getD line [] := by
    intro line member
    have present := mem_range_lines member
    refine ⟨present, ?_⟩
    have chosen :
        line ∈ List.range editor.document.lines.length :=
      List.mem_range.mpr present
    calc
      tidied editor.style
            (columnIn editor.style editor.reindenting.texts line)
            (editor.reindenting.texts.getD line []) =
          (tidiedAt editor.style editor.document.lines
            (List.range editor.document.lines.length)).getD line [] :=
        (getD_tidiedAt chosen).symm
      _ = editor.document.lines.getD line [] := by
        rw [tidiedAt_range, tidy]
  rcases sound.reindenting.tidyLines_of_tidy each with ⟨same, none⟩
  refine
    ⟨(editor.reindenting.tidyLines editor.style
      (List.range (linesOf editor.content).length)).1.memo, ?_⟩
  rw [Editor.reindentDocument]
  dsimp only
  rw [none, Editor.finishReindenting, same]
  rfl

theorem lines_ne_nil (editor : Editor) : editor.document.lines ≠ [] := by
  intro none
  exact linesOf_ne_nil editor.content (List.map_eq_nil_iff.mp none)

/-- No line of the document holds a line feed. -/
theorem Sound.notMem_of_mem_lines
    (sound : editor.Sound)
    {line : Text}
    (listed : line ∈ editor.document.lines) :
    CodePoint.ofChar '\n' ∉ line :=
  sound.settled.notMem_textsOf listed (Or.inl rfl)

/-- The lines of the document can be reindented as a text. -/
theorem Sound.exists_reindentText (sound : editor.Sound) :
    ∃ tidy : Text,
      reindentText editor.style (Text.ofLines editor.document.lines) =
          .ok tidy ∧
        tidy.lines = tidiedLines editor.style editor.document.lines := by
  have positive : 1 ≤ editor.style.tabWidth := by
    rw [sound.tabWidth_eq]
    decide
  have nonempty := lines_ne_nil editor
  have whole :
      ∀ line ∈ editor.document.lines, CodePoint.ofChar '\n' ∉ line :=
    fun _ => sound.notMem_of_mem_lines
  refine ⟨_, reindentText_eq positive (Text.ofLines _), ?_⟩
  rw [Text.lines_ofLines nonempty whole]
  exact lines_ofLines_tidiedLines editor.style nonempty whole

end Document

/--
Reindenting the document of a session puts the lines of the reindented text
in the place of its own and counts those that differ.  Doing so again counts
none, and leaves the document with its history and the cursor as they are.
-/
theorem reindentDocument_session
    (palette : Palette)
    (mode : Language.Mode)
    (text : Text)
    (commands : List Command) :
    let editor := session palette mode text commands
    let old := editor.document.lines
    let tidied := editor.reindentDocument.1.editor
    let new := tidied.document.lines
    (∃ tidy : Text,
        reindentText editor.style (Text.ofLines old) = .ok tidy ∧
          new = tidy.lines) ∧
      editor.reindentDocument.2 =
        (List.range old.length).countP (fun line => new[line]? ≠ old[line]?) ∧
      ∃ memo : Memo,
        tidied.reindentDocument = (stay { tidied with memo }, 0) := by
  have sound := sound_session palette mode text commands
  have positive :
      1 ≤ (session palette mode text commands).style.tabWidth := by
    rw [sound.tabWidth_eq]
    decide
  intro editor old tidied new
  refine ⟨?_, sound.count_reindentDocument, ?_⟩
  · have nonempty : old ≠ [] := lines_ne_nil editor
    have whole : ∀ line ∈ old, CodePoint.ofChar '\n' ∉ line :=
      fun _ => sound.notMem_of_mem_lines
    refine ⟨_, reindentText_eq positive (Text.ofLines old), ?_⟩
    rw [Text.lines_ofLines nonempty whole,
      lines_ofLines_tidiedLines editor.style nonempty whole]
    exact sound.lines_reindentDocument
  · refine sound.reindentDocument.reindentDocument_of_tidy ?_
    rw [sound.lines_reindentDocument]
    exact tidiedLines_tidiedLines _ _

end ClauseEditor.Editor
