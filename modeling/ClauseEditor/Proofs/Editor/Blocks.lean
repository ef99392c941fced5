import ClauseEditor.Proofs.Document.Timeline
import ClauseEditor.Proofs.Editor.Tidying

/-!
# Commands as edits

A command that edits records the changes of one draft, whatever it does to the
cursor afterwards, and a command that only moves the cursor or changes the
appearance records a draft without changes as far as the document is concerned.
The commands that edit lines hold their changes together in an edit block.
Typing a text is up to two edits for each of its characters.  That leaves
undoing, redoing and the setting of a new text.

So what edits and steps of the history keep of a document, no command but the
last can break.
-/

namespace ClauseEditor

open Document

/-- A property of documents that edits and steps of the history keep. -/
structure Document.Lasting (keeps : Document → Prop) : Prop where
  commit {document : Document} {draft : Draft} (span : Span) :
    keeps document → draft.IsFrom document.content →
      keeps (document.commit draft span)
  undo {document next : Document} {cursor : Cursor} {step : Step}
      {draft : Draft} :
    keeps document → document.undo? cursor = some (next, step, draft) →
      keeps next
  redo {document next : Document} {cursor : Cursor} {step : Step}
      {draft : Draft} :
    keeps document → document.redo? cursor = some (next, step, draft) →
      keeps next

theorem Document.lasting_saves (saved : List CodeUnit) :
    Lasting fun document => document.Saves saved where
  commit span saves isFrom := saves.commit isFrom span
  undo saves back := saves.undo back
  redo saves forth := saves.redo forth

namespace Editor

/-- The changes of a draft have led from one editor to another. -/
def IsEdit (before after : Editor) : Prop :=
  ∃ draft span,
    draft.IsFrom before.content ∧
      after.document = before.document.commit draft span

/-- The same, and an edit block has held them together. -/
def IsBlock (before after : Editor) : Prop :=
  ∃ draft cursor?,
    draft.IsFrom before.content ∧
      after.document = before.document.commit draft (.block cursor?)

theorem IsBlock.isEdit
    {before after : Editor}
    (isBlock : before.IsBlock after) :
    before.IsEdit after := by
  rcases isBlock with ⟨draft, cursor?, isFrom, committed⟩
  exact ⟨draft, .block cursor?, isFrom, committed⟩

theorem isEdit_finish
    {editor : Editor}
    {draft : Draft}
    (isFrom : draft.IsFrom editor.content)
    (memo : Indent.Memo)
    (span : Span) :
    editor.IsEdit (editor.finish draft memo span).editor :=
  ⟨draft, span, isFrom, rfl⟩

theorem isBlock_finish
    {editor : Editor}
    {draft : Draft}
    (isFrom : draft.IsFrom editor.content)
    (memo : Indent.Memo)
    (cursor? : Option Nat) :
    editor.IsBlock (editor.finish draft memo (.block cursor?)).editor :=
  ⟨draft, cursor?, isFrom, rfl⟩

theorem Outcome.editor_andThen (outcome : Outcome) (next : Editor → Outcome) :
    (outcome.andThen next).editor = (next outcome.editor).editor := rfl

/-- The cursor makes no difference to a document. -/
theorem IsBlock.andThen_placeCursor
    {editor : Editor}
    {outcome : Outcome}
    (isBlock : editor.IsBlock outcome.editor)
    (cursorIn : Editor → Cursor) :
    editor.IsBlock
      (outcome.andThen fun next =>
        next.placeCursor (cursorIn next)).editor :=
  isBlock

/-- Neither does what is shown of it. -/
theorem IsEdit.revealed
    {editor : Editor}
    {outcome : Outcome}
    (isEdit : editor.IsEdit outcome.editor) :
    editor.IsEdit outcome.revealed.editor :=
  isEdit

namespace Sound

variable {editor : Editor} (sound : editor.Sound)

include sound

/-- A document that stays the same has seen an edit without changes. -/
theorem isEdit_of_same
    {other : Editor}
    (same : other.document = editor.document) :
    editor.IsEdit other :=
  ⟨editor.draft, .single, sound.draft,
    same.trans (commit_of_changes_eq_nil rfl .single).symm⟩

theorem isBlock_breakLine : editor.IsBlock editor.breakLine.editor := by
  rw [breakLine_eq sound]
  exact (isBlock_finish (isFrom_breaking sound) _ _).andThen_placeCursor _

theorem isBlock_reindentLine : editor.IsBlock editor.reindentLine.editor := by
  have kept :=
    sound.reindenting.alignLine (cursorLine_lt_length editor) editor.style
      editor.cursorColumn
  rw [Editor.reindentLine]
  exact (isBlock_finish kept.isFrom _ _).andThen_placeCursor _

theorem isBlock_reindentSelection :
    editor.IsBlock editor.reindentSelection.editor :=
  isBlock_finish
    (sound.reindenting.foldl_alignContent editor.style
      mem_selectedLines_lt_length).isFrom _ _

theorem isBlock_reindentDocument :
    editor.IsBlock editor.reindentDocument.1.editor :=
  isBlock_finish
    (sound.reindenting.tidyLines editor.style
      fun _ listed => mem_range_lines listed).1.isFrom _ _

theorem isBlock_toggleComment :
    editor.IsBlock editor.toggleComment.editor := by
  rw [toggleComment_eq]
  exact isBlock_finish (isFrom_commenting sound) _ _

theorem isBlock_outdentSelection :
    editor.IsBlock editor.outdentSelection.editor :=
  isBlock_finish (isFrom_foldl_outdentLine sound.draft _ _) _ _

/-! ## Keys -/

theorem isEdit_eraseBackward :
    editor.IsEdit editor.eraseBackward.editor := by
  rw [Editor.eraseBackward]
  split
  · exact (isEdit_finish sound.draft.removeSelection _ _).revealed
  · exact (isEdit_finish (sound.draft.remove _ _) _ _).revealed

theorem isEdit_eraseForward : editor.IsEdit editor.eraseForward.editor := by
  rw [Editor.eraseForward]
  split
  · exact (isEdit_finish sound.draft.removeSelection _ _).revealed
  · exact (isEdit_finish (sound.draft.removeKeeping _ _ _) _ _).revealed

theorem isEdit_pressKey (key : Key) :
    editor.IsEdit (editor.pressKey key).editor := by
  cases key with
  | enter => exact sound.isBlock_breakLine.isEdit
  | tab =>
      rw [Editor.pressKey]
      split
      · exact sound.isBlock_reindentSelection.isEdit
      · exact sound.isBlock_reindentLine.isEdit
  | backtab => exact sound.isBlock_outdentSelection.isEdit
  | backspace => exact sound.isEdit_eraseBackward
  | delete => exact sound.isEdit_eraseForward

theorem isEdit_putIn (c : CodePoint) :
    editor.IsEdit (editor.putIn c).editor :=
  isEdit_finish (sound.draft.type [c]) _ _

theorem isEdit_typePlain (c : CodePoint) (control : Bool) :
    editor.IsEdit (editor.typePlain c control).editor := by
  rw [Editor.typePlain]
  split
  · exact (sound.isEdit_putIn c).revealed
  · exact sound.isEdit_of_same rfl

theorem isEdit_typeClosing (c : CodePoint) (control : Bool) :
    editor.IsEdit (editor.typeClosing c control).editor := by
  rw [Editor.typeClosing]
  split
  · exact sound.isEdit_of_same rfl
  · exact sound.isEdit_typePlain c control

theorem isEdit_settleBracket :
    editor.IsEdit editor.settleBracket.editor := by
  rw [Editor.settleBracket]
  split
  · exact sound.isBlock_reindentLine.isEdit
  · exact sound.isEdit_of_same rfl

end Sound

/-! ## What commands keep of a document -/

/-- Gives the editor another text. -/
def Command.setsText : Command → Bool
  | .setText _ => true
  | _ => false

end Editor

namespace Document.Lasting

open Editor

variable
    {keeps : Document → Prop}
    (lasting : Lasting keeps)
    {editor : Editor}

include lasting

theorem edit
    (kept : keeps editor.document)
    {after : Editor}
    (isEdit : editor.IsEdit after) :
    keeps after.document := by
  rcases isEdit with ⟨draft, span, isFrom, committed⟩
  rw [committed]
  exact lasting.commit span kept isFrom

variable (sound : editor.Sound)

include sound

/-- The two brackets go in one after the other. -/
theorem typePair
    (kept : keeps editor.document)
    (opening close : CodePoint)
    (control : Bool) :
    keeps (editor.typePair opening close control).editor.document := by
  have opened := lasting.edit kept (sound.isEdit_typePlain opening control)
  have closed :=
    lasting.edit opened
      ((sound.typePlain opening control).isEdit_putIn close)
  rw [Editor.typePair]
  exact closed

theorem typeCharacter
    (kept : keeps editor.document)
    (c : CodePoint)
    (control : Bool) :
    keeps (editor.typeCharacter c control).editor.document := by
  rw [Editor.typeCharacter]
  split
  · exact lasting.typePair sound kept c _ control
  · have closed : keeps (editor.typeClosing c control).editor.document :=
      lasting.edit kept (sound.isEdit_typeClosing c control)
    have settled :
        keeps
          (editor.typeClosing c
            control).editor.settleBracket.editor.document :=
      lasting.edit closed
        (sound.typeClosing c control).isEdit_settleBracket
    split
    · dsimp only
      split
      · rw [Outcome.editor_andThen]
        exact settled
      · exact closed
    · exact lasting.edit kept (sound.isEdit_typePlain c control)

omit sound in
theorem typeText
    (text : Text)
    (control : Bool)
    {outcome : Outcome}
    (sound : outcome.editor.Sound)
    (kept : keeps outcome.editor.document) :
    keeps
      (text.foldl
        (fun outcome c => outcome.andThen (·.typeCharacter c control))
        outcome).editor.document := by
  induction text generalizing outcome with
  | nil => exact kept
  | cons c text induction =>
      exact induction (sound.typeCharacter c control)
        (lasting.typeCharacter sound kept c control)

/-- Every command but one keeps what edits and steps keep. -/
theorem perform
    (kept : keeps editor.document)
    {command : Command}
    (edits : command.setsText = false) :
    keeps (editor.perform command).editor.document := by
  cases command with
  | setText text => cases edits
  | select position anchor => exact kept
  | selectEnd => exact kept
  | press key => exact lasting.edit kept (sound.isEdit_pressKey key)
  | type text control => exact lasting.typeText text control sound kept
  | breakLine => exact lasting.edit kept sound.isBlock_breakLine.isEdit
  | reindentLine => exact lasting.edit kept sound.isBlock_reindentLine.isEdit
  | reindentSelection =>
      exact lasting.edit kept sound.isBlock_reindentSelection.isEdit
  | reindentDocument =>
      exact lasting.edit kept sound.isBlock_reindentDocument.isEdit
  | toggleComment => exact lasting.edit kept sound.isBlock_toggleComment.isEdit
  | undo =>
      rw [Editor.perform, Editor.undo]
      split
      · exact kept
      · rename_i undone
        exact lasting.undo kept undone
  | redo =>
      rw [Editor.perform, Editor.redo]
      split
      · exact kept
      · rename_i redone
        exact lasting.redo kept redone
  | setIndentWidth width => exact kept
  | setFontSize size => exact kept
  | resetFontSize => exact kept
  | turnWheel control delta =>
      rw [Editor.perform, Editor.turnWheel]
      split
      · exact kept
      · split <;> exact kept
  | setWrapping wraps =>
      rw [Editor.perform, Editor.setWrapping]
      split <;> exact kept
  | setMode mode => exact kept
  | setPalette palette => exact kept

end Document.Lasting

end ClauseEditor
