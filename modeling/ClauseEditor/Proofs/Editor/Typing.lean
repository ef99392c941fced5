import ClauseEditor.Editor.Typing
import ClauseEditor.Proofs.Editor.LineBreak
import ClauseEditor.Proofs.Editor.LineEditing

/-!
# Typing keeps editors sound

What a key puts in or takes out is an edit that asks the memo nothing.
A key that only moves the cursor moves it to a position inside the content,
and a bracket that settles its line reindents that line.
-/

namespace ClauseEditor.Editor

open Document

theorem Sound.revealed
    {outcome : Outcome}
    (sound : outcome.editor.Sound) :
    outcome.revealed.editor.Sound :=
  sound.reveal

/-- What happens next keeps the editor sound if it does so by itself. -/
theorem Sound.andThen
    {outcome : Outcome}
    (sound : outcome.editor.Sound)
    {next : Editor → Outcome}
    (keeps :
      ∀ {editor : Editor}, editor.Sound → (next editor).editor.Sound) :
    (outcome.andThen next).editor.Sound :=
  keeps sound

/-! ## Characters around the cursor -/

theorem length_encode_takeWhile_le
    (text : Text)
    (chosen : CodePoint → Bool) :
    (Utf16.encode (text.takeWhile chosen)).length ≤
      (Utf16.encode text).length := by
  calc
    (Utf16.encode (text.takeWhile chosen)).length ≤
        (Utf16.encode (text.takeWhile chosen)).length +
          (Utf16.encode (text.dropWhile chosen)).length :=
      Nat.le_add_right _ _
    _ = (Utf16.encode text).length := by
      rw [← List.length_append, ← Utf16.encode_append,
        List.takeWhile_append_dropWhile]

/-- The character after a position ends inside the content. -/
theorem characterAfter_le
    {content : List CodeUnit}
    {position : Nat}
    (inside : position ≤ content.length) :
    characterAfter content position ≤ content.length := by
  have behind : (content.drop position).length = content.length - position :=
    List.length_drop
  rw [characterAfter]
  cases after : content.drop position with
  | nil => exact inside
  | cons unit rest =>
      rw [after, List.length_cons] at behind
      dsimp only
      split
      · omega
      · cases decoded :
            Utf16.decode ((unit :: rest).takeWhile (· ≠ separator)) with
        | nil => exact inside
        | cons c others =>
            have whole :
                Utf16.encode (c :: others) =
                  (unit :: rest).takeWhile (· ≠ separator) := by
              rw [← decoded, Utf16.encode_decode]
            have shorter :
                (Utf16.encode (c :: others)).length ≤ rest.length + 1 := by
              rw [whole]
              exact (List.takeWhile_sublist _).length_le
            have kept :=
              length_encode_takeWhile_le others CodePoint.attaches
            have headed (text : Text) :
                (Utf16.encode (c :: text)).length =
                  (Utf16.encode [c]).length +
                    (Utf16.encode text).length := by
              rw [← List.length_append, ← Utf16.encode_append,
                List.singleton_append]
            rw [headed] at shorter
            dsimp only
            rw [headed]
            omega

section Keys

variable {editor : Editor}

theorem cursor?_keySpan (editor : Editor) :
    editor.keySpan.cursor? = none := by
  rw [keySpan]
  split <;> rfl

/-- An edit that was not begun by the cursor. -/
theorem Sound.finishTyping
    (sound : editor.Sound)
    {draft : Draft}
    (isFrom : draft.IsFrom editor.content)
    (settled : Settled draft.content) :
    (editor.finish draft editor.memo editor.keySpan).editor.Sound := by
  refine sound.edit isFrom settled ?_
  rw [cursor?_keySpan]
  exact nofun

theorem Sound.eraseBackward (sound : editor.Sound) :
    editor.eraseBackward.editor.Sound := by
  rw [Editor.eraseBackward]
  refine (sound.finishTyping ?_ ?_).revealed
  · split
    · exact sound.draft.removeSelection
    · exact sound.draft.remove _ _
  · split
    · exact Draft.settled_removeKeeping sound.settled _ _ _
    · exact Draft.settled_remove sound.settled _ _

theorem Sound.eraseForward (sound : editor.Sound) :
    editor.eraseForward.editor.Sound := by
  rw [Editor.eraseForward]
  refine (sound.finishTyping ?_ ?_).revealed
  · split
    · exact sound.draft.removeSelection
    · exact sound.draft.removeKeeping _ _ _
  · split
    · exact Draft.settled_removeKeeping sound.settled _ _ _
    · exact Draft.settled_removeKeeping sound.settled _ _ _

theorem Sound.putIn (sound : editor.Sound) (c : CodePoint) :
    (editor.putIn c).editor.Sound :=
  sound.finishTyping (sound.draft.type [c])
    (Draft.settled_type sound.settled [c])

theorem Sound.typePlain
    (sound : editor.Sound)
    (c : CodePoint)
    (control : Bool) :
    (editor.typePlain c control).editor.Sound := by
  rw [Editor.typePlain]
  split
  · exact (sound.putIn c).revealed
  · exact sound

theorem Sound.typePair
    (sound : editor.Sound)
    (opening close : CodePoint)
    (control : Bool) :
    (editor.typePair opening close control).editor.Sound := by
  rw [Editor.typePair]
  have closed :=
    (sound.typePlain opening control).andThen fun opened => opened.putIn close
  apply closed.andThen
  intro next typed
  exact typed.atPosition (Nat.le_trans (Nat.sub_le _ 1) typed.position_le)

theorem Sound.typeClosing
    (sound : editor.Sound)
    (c : CodePoint)
    (control : Bool) :
    (editor.typeClosing c control).editor.Sound := by
  rw [Editor.typeClosing]
  split
  · exact sound.atPosition (characterAfter_le sound.position_le)
  · exact sound.typePlain c control

theorem Sound.settleBracket (sound : editor.Sound) :
    editor.settleBracket.editor.Sound := by
  rw [Editor.settleBracket]
  split
  · exact sound.reindentLine
  · exact sound

theorem Sound.typeCharacter
    (sound : editor.Sound)
    (c : CodePoint)
    (control : Bool) :
    (editor.typeCharacter c control).editor.Sound := by
  rw [Editor.typeCharacter]
  split
  · exact sound.typePair c _ control
  · split
    · dsimp only
      split
      · exact (sound.typeClosing c control).andThen Sound.settleBracket
      · exact sound.typeClosing c control
    · exact sound.typePlain c control

theorem Sound.pressKey
    (sound : editor.Sound)
    (key : Key) :
    (editor.pressKey key).editor.Sound := by
  cases key with
  | enter => exact sound.breakLine
  | tab =>
      rw [Editor.pressKey]
      split
      · exact sound.reindentSelection
      · exact sound.reindentLine
  | backtab => exact sound.outdentSelection
  | backspace => exact sound.eraseBackward
  | delete => exact sound.eraseForward

end Keys

end ClauseEditor.Editor
