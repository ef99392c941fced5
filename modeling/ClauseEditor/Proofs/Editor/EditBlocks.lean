import ClauseEditor.Editor.Basic
import ClauseEditor.Proofs.Document.Consistency
import ClauseEditor.Proofs.Indent.Coherence

/-!
# Edit blocks of the editor

An editor is sound if its history is consistent, its cursor stands inside the
document and its memo is coherent with the lines.

An edit ends with the memo being cut back to the line of the least changed
position.  That is enough in three cases: the memo was coherent with the lines
before the edit, it is coherent with the lines after it, or it is so above the
line of one of the changes.  Moving the cursor and going back and
forth in the history keep an editor sound as well.
-/

namespace ClauseEditor

open Document
open Indent (Memo)

namespace Document.Draft

/-- The memo at the end of an edit. -/
def cutMemo (draft : Draft) (memo : Memo) : Memo :=
  match firstChanged? draft.changes with
  | none => memo
  | some position => memo.cutAt (lineAt draft.content position)

section Cut

variable
    {content : List CodeUnit}
    {draft : Draft}
    {memo : Memo}

/-- Only lines from the first changed one on have changed. -/
theorem coherent_cutMemo_of_before
    (isFrom : draft.IsFrom content)
    (coherent : memo.Coherent (textsOf content)) :
    (draft.cutMemo memo).Coherent (textsOf draft.content) := by
  rw [cutMemo]
  cases first : firstChanged? draft.changes with
  | none =>
      have leads := isFrom.leads
      rw [firstChanged?_eq_none_iff.mp first, List.reverse_nil] at leads
      rw [leads.eq_of_nil]
      exact coherent
  | some position =>
      have same := isFrom.take_eq (le_position_of_firstChanged? first)
      have below :=
        Memo.coherent_iff.mp coherent (lineAt draft.content position)
      exact (below.congr (take_textsOf_of_take_eq same).symm).cutAt

theorem coherent_cutMemo_of_after
    (coherent : memo.Coherent (textsOf draft.content)) :
    (draft.cutMemo memo).Coherent (textsOf draft.content) := by
  rw [cutMemo]
  split
  · exact coherent
  · exact (Memo.coherent_iff.mp coherent _).cutAt

/-- The memo is cut back at or above the line of every change. -/
theorem coherent_cutMemo_of_below
    {change : Change}
    (made : change ∈ draft.changes)
    (below :
      memo.CoherentBelow (textsOf draft.content)
        (lineAt draft.content change.position)) :
    (draft.cutMemo memo).Coherent (textsOf draft.content) := by
  rw [cutMemo]
  cases first : firstChanged? draft.changes with
  | none =>
      rw [firstChanged?_eq_none_iff.mp first] at made
      exact absurd made List.not_mem_nil
  | some position =>
      have least := le_position_of_firstChanged? first change made
      exact (below.mono (lineAt_mono draft.content least)).cutAt

end Cut

end Document.Draft

namespace Editor

/-- What holds of an editor between two commands. -/
structure Sound (editor : Editor) : Prop where
  consistent : editor.document.Consistent
  position_le : editor.cursor.position ≤ editor.content.length
  anchor_le : editor.cursor.anchor ≤ editor.content.length
  coherent : editor.memo.Coherent editor.document.lines
  tabWidth_eq : editor.style.tabWidth = Indent.Style.standard.tabWidth

namespace Sound

variable {editor : Editor}

theorem draft (sound : editor.Sound) :
    editor.draft.IsFrom editor.content :=
  .start sound.position_le sound.anchor_le

theorem settled (sound : editor.Sound) : Settled editor.content :=
  sound.consistent.settled

theorem reveal (sound : editor.Sound) : editor.reveal.Sound :=
  ⟨sound.consistent, sound.position_le, sound.anchor_le, sound.coherent,
    sound.tabWidth_eq⟩

theorem placeCursor
    (sound : editor.Sound)
    {cursor : Cursor}
    (position_le : cursor.position ≤ editor.content.length)
    (anchor_le : cursor.anchor ≤ editor.content.length) :
    (editor.placeCursor cursor).editor.Sound := by
  have moved : Sound { editor with cursor } :=
    ⟨sound.consistent, position_le, anchor_le, sound.coherent,
      sound.tabWidth_eq⟩
  exact moved.reveal

theorem atPosition
    (sound : editor.Sound)
    {position : Nat}
    (inside : position ≤ editor.content.length) :
    (editor.placeCursor (.atPosition position)).editor.Sound :=
  sound.placeCursor inside inside

end Sound

section EditBlock

variable
    {editor : Editor}
    {draft : Draft}
    {memo : Memo}
    {span : Span}

theorem content_finish (isFrom : draft.IsFrom editor.content) :
    (editor.finish draft memo span).editor.content = draft.content :=
  content_commit isFrom span

theorem Sound.finish
    (sound : editor.Sound)
    (isFrom : draft.IsFrom editor.content)
    (settled : Settled draft.content)
    (coherent : (draft.cutMemo memo).Coherent (textsOf draft.content))
    (inside : ∀ position ∈ span.cursor?, position ≤ editor.content.length) :
    (editor.finish draft memo span).editor.Sound := by
  have held : (editor.finish draft memo span).editor.content =
      draft.content :=
    content_finish isFrom
  constructor
  · exact sound.consistent.commit isFrom settled inside
  · rw [held]
    exact isFrom.position_le
  · rw [held]
    exact isFrom.anchor_le
  · have texts :
        (editor.finish draft memo span).editor.document.lines =
          textsOf draft.content :=
      congrArg textsOf held
    rw [texts]
    exact coherent
  · exact sound.tabWidth_eq

/-- An edit that asks the memo nothing. -/
theorem Sound.edit
    (sound : editor.Sound)
    (isFrom : draft.IsFrom editor.content)
    (settled : Settled draft.content)
    (inside : ∀ position ∈ span.cursor?, position ≤ editor.content.length) :
    (editor.finish draft editor.memo span).editor.Sound :=
  sound.finish isFrom settled
    (Draft.coherent_cutMemo_of_before isFrom sound.coherent) inside

theorem Sound.cursor_inside (sound : editor.Sound) :
    ∀ position ∈ (Span.block (some editor.cursor.position)).cursor?,
      position ≤ editor.content.length := by
  rintro position ⟨⟩
  exact sound.position_le

end EditBlock

/-! ## Going back and forth -/

section Travel

variable {editor : Editor}

theorem Sound.travel
    (sound : editor.Sound)
    {next : Document}
    {draft : Draft}
    {position : Nat}
    (travels : Travels editor.document next draft position) :
    (editor.travel next draft position).editor.Sound := by
  have coherent :=
    Draft.coherent_cutMemo_of_before travels.isFrom sound.coherent
  have arrived :
      Sound
        { editor with
          document := next
          cursor := .atPosition position
          memo := draft.cutMemo editor.memo } := by
    refine
      ⟨travels.consistent, travels.position_le, travels.position_le, ?_,
        sound.tabWidth_eq⟩
    rw [lines, travels.content_eq]
    exact coherent
  exact arrived.reveal

theorem Sound.undo (sound : editor.Sound) : editor.undo.editor.Sound := by
  rw [Editor.undo]
  cases undone : editor.document.undo? editor.cursor with
  | none => exact sound
  | some travelled =>
      rcases travelled with ⟨next, step, draft⟩
      exact sound.travel
        (sound.consistent.undo sound.position_le sound.anchor_le undone)

theorem Sound.redo (sound : editor.Sound) : editor.redo.editor.Sound := by
  rw [Editor.redo]
  cases redone : editor.document.redo? editor.cursor with
  | none => exact sound
  | some travelled =>
      rcases travelled with ⟨next, step, draft⟩
      exact sound.travel
        (sound.consistent.redo sound.position_le sound.anchor_le redone)

end Travel

end Editor

end ClauseEditor
