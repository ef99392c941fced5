import ClauseEditor.Editor.Command
import ClauseEditor.Proofs.Editor.Typing

/-!
# Sessions

A session is what commands make of a new editor that has been given a text.
Every command keeps an editor sound, so the editor at the end of a session is
sound: its memo is coherent with the lines, whatever has filled it and cut it
back on the way.
-/

namespace ClauseEditor.Editor

open Document
open Indent (Memo)

/-- The editor after a text and some commands. -/
def session
    (palette : Palette)
    (mode : Language.Mode)
    (text : Text)
    (commands : List Command) :
    Editor :=
  ((start palette mode).performAll (.setText text :: commands)).editor

theorem sound_start (palette : Palette) (mode : Language.Mode) :
    (start palette mode).Sound :=
  ⟨consistent_ofText [], Nat.le_refl _, Nat.le_refl _,
    Memo.coherent_empty _, rfl⟩

section Commands

variable {editor : Editor}

theorem Sound.setText
    (sound : editor.Sound)
    (text : Text) :
    (editor.setText text).editor.Sound :=
  ⟨consistent_ofText text, Nat.zero_le _, Nat.zero_le _,
    Memo.coherent_empty _, sound.tabWidth_eq⟩

theorem Sound.select
    (sound : editor.Sound)
    (position anchor : Int) :
    (editor.select position anchor).editor.Sound :=
  sound.placeCursor (Nat.min_le_right _ _) (Nat.min_le_right _ _)

theorem Sound.selectEnd (sound : editor.Sound) :
    editor.selectEnd.editor.Sound :=
  sound.atPosition (Nat.le_refl _)

/-- Actions one after another keep an editor sound if each of them does. -/
theorem Sound.foldl_andThen
    {Action : Type}
    {act : Action → Editor → Outcome}
    (keeps :
      ∀ action {editor : Editor},
        editor.Sound → (act action editor).editor.Sound)
    (actions : List Action)
    {outcome : Outcome}
    (sound : outcome.editor.Sound) :
    (actions.foldl (fun outcome action => outcome.andThen (act action))
      outcome).editor.Sound := by
  induction actions generalizing outcome with
  | nil => exact sound
  | cons action actions induction =>
      exact induction (sound.andThen (keeps action))

/-- Actions one after another do not depend on what was reported before. -/
theorem editor_foldl_andThen
    {Action : Type}
    (act : Action → Editor → Outcome)
    (actions : List Action)
    (outcome : Outcome) :
    (actions.foldl (fun outcome action => outcome.andThen (act action))
        outcome).editor =
      actions.foldl (fun editor action => (act action editor).editor)
        outcome.editor := by
  induction actions generalizing outcome with
  | nil => rfl
  | cons action actions induction => exact induction _

theorem Sound.typeText
    (sound : editor.Sound)
    (text : Text)
    (control : Bool) :
    (editor.typeText text control).editor.Sound :=
  foldl_andThen (fun c _ typed => typed.typeCharacter c control) text sound

/-- No other field of an editor counts. -/
theorem Sound.of_same
    (sound : editor.Sound)
    {other : Editor}
    (document : other.document = editor.document)
    (cursor : other.cursor = editor.cursor)
    (memo : other.memo = editor.memo)
    (tabWidth : other.style.tabWidth = editor.style.tabWidth) :
    other.Sound := by
  rcases sound with ⟨consistent, position_le, anchor_le, coherent, width⟩
  constructor
  · rwa [document]
  · rwa [content, document, cursor]
  · rwa [content, document, cursor]
  · rwa [document, memo]
  · rwa [tabWidth]

theorem Sound.turnWheel
    (sound : editor.Sound)
    (control : Bool)
    (delta : Int) :
    (editor.turnWheel control delta).Sound := by
  rw [Editor.turnWheel]
  split
  · exact sound.of_same rfl rfl rfl rfl
  · split
    · exact sound
    · exact sound.of_same rfl rfl rfl rfl

theorem Sound.setWrapping
    (sound : editor.Sound)
    (wraps : Bool) :
    (editor.setWrapping wraps).Sound := by
  rw [Editor.setWrapping]
  split
  · exact sound
  · exact sound.of_same rfl rfl rfl rfl

/-- Every command keeps an editor sound. -/
theorem Sound.perform
    (sound : editor.Sound)
    (command : Command) :
    (editor.perform command).editor.Sound := by
  cases command with
  | setText text => exact sound.setText text
  | select position anchor => exact sound.select position anchor
  | selectEnd => exact sound.selectEnd
  | press key => exact sound.pressKey key
  | type text control => exact sound.typeText text control
  | breakLine => exact sound.breakLine
  | reindentLine => exact sound.reindentLine
  | reindentSelection => exact sound.reindentSelection
  | reindentDocument => exact sound.reindentDocument
  | toggleComment => exact sound.toggleComment
  | undo => exact sound.undo
  | redo => exact sound.redo
  | setIndentWidth width => exact sound.of_same rfl rfl rfl rfl
  | setFontSize size => exact sound.of_same rfl rfl rfl rfl
  | resetFontSize => exact sound.of_same rfl rfl rfl rfl
  | turnWheel control delta => exact sound.turnWheel control delta
  | setWrapping wraps => exact sound.setWrapping wraps
  | setMode mode => exact sound.of_same rfl rfl rfl rfl
  | setPalette palette => exact sound.of_same rfl rfl rfl rfl

end Commands

theorem Sound.performAll
    {editor : Editor}
    (sound : editor.Sound)
    (commands : List Command) :
    (editor.performAll commands).editor.Sound :=
  foldl_andThen (fun command _ reached => reached.perform command) commands
    sound

theorem sound_session
    (palette : Palette)
    (mode : Language.Mode)
    (text : Text)
    (commands : List Command) :
    (session palette mode text commands).Sound :=
  (sound_start palette mode).performAll _

/--
At the end of a session the memo covers no more lines than there are, and each
of its boundaries is the one after the lines above.
-/
theorem coherent_memo_session
    (palette : Palette)
    (mode : Language.Mode)
    (text : Text)
    (commands : List Command) :
    (session palette mode text commands).memo.Coherent
      (session palette mode text commands).document.lines :=
  (sound_session palette mode text commands).coherent

end ClauseEditor.Editor
