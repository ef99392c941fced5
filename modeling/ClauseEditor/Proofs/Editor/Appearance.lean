import ClauseEditor.Editor.Command

/-!
# Editing leaves the appearance alone

An editor's colours, its columns of one level, its wrapping and its font size
are set by commands of their own.  Every other command ends an edit block,
takes a step of the history or moves the cursor, and these leave all four as
they are.
-/

namespace ClauseEditor.Editor

open Document

/-- What the preferences decide of an editor. -/
structure Appearance where
  palette : Palette
  /-- The columns of one level of indentation. -/
  unit : Int
  wraps : Bool
  fontSize : Int
deriving DecidableEq

def appearance (editor : Editor) : Appearance :=
  ⟨editor.palette, editor.style.unit, editor.wraps, editor.fontSize⟩

/-- The commands that set a part of the appearance. -/
def Command.setsAppearance : Command → Bool
  | .setIndentWidth _ => true
  | .setFontSize _ => true
  | .resetFontSize => true
  | .turnWheel control _ => control
  | .setWrapping _ => true
  | .setPalette _ => true
  | _ => false

section Editing

variable {editor : Editor}

theorem appearance_andThen
    {next : Editor → Outcome}
    (keeps : ∀ editor, (next editor).editor.appearance = editor.appearance)
    (outcome : Outcome) :
    (outcome.andThen next).editor.appearance = outcome.editor.appearance :=
  keeps outcome.editor

/-- Commands one after another leave the appearance alone if each of them does. -/
theorem appearance_foldl_andThen
    {Action : Type}
    {act : Action → Editor → Outcome}
    (keeps :
      ∀ action (editor : Editor),
        (act action editor).editor.appearance = editor.appearance)
    (actions : List Action)
    (outcome : Outcome) :
    (actions.foldl (fun outcome action => outcome.andThen (act action))
        outcome).editor.appearance =
      outcome.editor.appearance := by
  induction actions generalizing outcome with
  | nil => rfl
  | cons action actions induction =>
      rw [List.foldl_cons, induction]
      exact appearance_andThen (keeps action) outcome

theorem appearance_placeCursor (editor : Editor) (cursor : Cursor) :
    (editor.placeCursor cursor).editor.appearance = editor.appearance := rfl

theorem appearance_finishReindenting
    (editor : Editor)
    (reindenting : Reindenting) :
    (editor.finishReindenting reindenting).editor.appearance =
      editor.appearance := rfl

theorem appearance_reindentLine (editor : Editor) :
    editor.reindentLine.editor.appearance = editor.appearance := by
  rw [reindentLine]
  dsimp only
  exact (appearance_andThen (fun _ => appearance_placeCursor _ _) _).trans
    (appearance_finishReindenting editor _)

theorem appearance_breakLine (editor : Editor) :
    editor.breakLine.editor.appearance = editor.appearance := by
  rw [breakLine]
  dsimp only
  exact (appearance_andThen (fun _ => appearance_placeCursor _ _) _).trans
    (appearance_finishReindenting editor _)

theorem appearance_typePlain
    (editor : Editor)
    (c : CodePoint)
    (control : Bool) :
    (editor.typePlain c control).editor.appearance = editor.appearance := by
  rw [typePlain]
  split
  · rfl
  · rfl

theorem appearance_typePair
    (editor : Editor)
    (opening close : CodePoint)
    (control : Bool) :
    (editor.typePair opening close control).editor.appearance =
      editor.appearance := by
  rw [typePair]
  have closed :
      ((editor.typePlain opening control).andThen
          (·.putIn close)).editor.appearance =
        editor.appearance :=
    (appearance_andThen (fun _ => rfl) _).trans
      (appearance_typePlain editor opening control)
  exact (appearance_andThen (fun _ => appearance_placeCursor _ _) _).trans
    closed

theorem appearance_typeClosing
    (editor : Editor)
    (c : CodePoint)
    (control : Bool) :
    (editor.typeClosing c control).editor.appearance = editor.appearance := by
  rw [typeClosing]
  split
  · rfl
  · exact appearance_typePlain editor c control

theorem appearance_settleBracket (editor : Editor) :
    editor.settleBracket.editor.appearance = editor.appearance := by
  rw [settleBracket]
  split
  · exact appearance_reindentLine editor
  · rfl

theorem appearance_typeCharacter
    (editor : Editor)
    (c : CodePoint)
    (control : Bool) :
    (editor.typeCharacter c control).editor.appearance = editor.appearance := by
  rw [typeCharacter]
  split
  · exact appearance_typePair editor c _ control
  · split
    · split
      · exact (appearance_andThen appearance_settleBracket _).trans
          (appearance_typeClosing editor c control)
      · exact appearance_typeClosing editor c control
    · exact appearance_typePlain editor c control

theorem appearance_pressKey (editor : Editor) (key : Key) :
    (editor.pressKey key).editor.appearance = editor.appearance := by
  cases key with
  | enter => exact appearance_breakLine editor
  | tab =>
      rw [pressKey]
      split
      · rfl
      · exact appearance_reindentLine editor
  | backtab => rfl
  | backspace => rfl
  | delete => rfl

theorem appearance_reindentDocument (editor : Editor) :
    editor.reindentDocument.1.editor.appearance = editor.appearance := rfl

theorem appearance_toggleComment (editor : Editor) :
    editor.toggleComment.editor.appearance = editor.appearance := rfl

theorem appearance_undo (editor : Editor) :
    editor.undo.editor.appearance = editor.appearance := by
  rw [undo]
  split
  · rfl
  · rfl

theorem appearance_redo (editor : Editor) :
    editor.redo.editor.appearance = editor.appearance := by
  rw [redo]
  split
  · rfl
  · rfl

/-- A command that sets no part of the appearance leaves all of it alone. -/
theorem appearance_perform
    {command : Command}
    (plain : command.setsAppearance = false)
    (editor : Editor) :
    (editor.perform command).editor.appearance = editor.appearance := by
  cases command with
  | setText text => rfl
  | select position anchor => rfl
  | selectEnd => rfl
  | press key => exact appearance_pressKey editor key
  | type text control =>
      exact appearance_foldl_andThen
        (fun c editor => appearance_typeCharacter editor c control) text _
  | breakLine => exact appearance_breakLine editor
  | reindentLine => exact appearance_reindentLine editor
  | reindentSelection => rfl
  | reindentDocument => exact appearance_reindentDocument editor
  | toggleComment => exact appearance_toggleComment editor
  | undo => exact appearance_undo editor
  | redo => exact appearance_redo editor
  | setIndentWidth width => cases plain
  | setFontSize size => cases plain
  | resetFontSize => cases plain
  | turnWheel control delta =>
      cases control with
      | false => rfl
      | true => cases plain
  | setWrapping wraps => cases plain
  | setMode mode => rfl
  | setPalette palette => cases plain

end Editing

/-! ## Setting a part -/

theorem appearance_setWrapping (editor : Editor) (wraps : Bool) :
    (editor.setWrapping wraps).appearance =
      { editor.appearance with wraps } := by
  rw [setWrapping]
  split
  · rename_i same
    rw [← same]
    rfl
  · rfl

end ClauseEditor.Editor
