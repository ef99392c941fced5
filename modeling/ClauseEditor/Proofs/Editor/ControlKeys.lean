import ClauseEditor.Proofs.Editor.Frame
import ClauseEditor.Proofs.Editor.Pairing

/-!
# Keys with Control held

A text area puts no character in while Control is held, but the editor handles
brackets itself whether it is held or not.  An opening bracket then brings its
closing one along and is left out.  A closing one is stepped over or does
nothing, and may move its line.  So keys without opening brackets change
margins at most, and keys without closing brackets put in what closes their
opening ones, each inside the one before.
-/

namespace ClauseEditor.Editor

open Document

section Keys

variable
    {editor : Editor}
    (sound : editor.Sound)
    {c : CodePoint}
    (untyped : isTyped c true = false)

/-- The text area does nothing. -/
theorem typePlain_of_untyped (untyped : isTyped c true = false) :
    editor.typePlain c true = editor.stay := by
  rw [typePlain, if_neg (ne_true_of_eq_false untyped)]

/-! ## Keys that open nothing -/

/-- A key that is no bracket does nothing. -/
theorem typeCharacter_of_untyped
    (untyped : isTyped c true = false)
    (opensNone : closing? c = none)
    (closesNone : isClosing c = false) :
    editor.typeCharacter c true = editor.stay := by
  rw [typeCharacter, opensNone]
  dsimp only
  rw [if_neg (ne_true_of_eq_false closesNone), typePlain_of_untyped untyped]

/-- A closing bracket is not put in. -/
theorem document_typeClosing_of_untyped (untyped : isTyped c true = false) :
    (editor.typeClosing c true).editor.document = editor.document := by
  rw [typeClosing_eq]
  split
  · rfl
  · rw [typePlain_of_untyped untyped]
    rfl

theorem document_typeCharacter_of_untyped
    (untyped : isTyped c true = false)
    (opensNone : closing? c = none)
    (settlesNone : [c] ∉ electricBrackets) :
    (editor.typeCharacter c true).editor.document = editor.document := by
  rw [typeCharacter, opensNone]
  dsimp only
  rw [if_neg settlesNone]
  split
  · exact document_typeClosing_of_untyped untyped
  · rw [typePlain_of_untyped untyped]
    rfl

include sound

theorem Sound.map_content_settleBracket :
    editor.settleBracket.editor.document.lines.map Indent.content =
      editor.document.lines.map Indent.content := by
  rw [Editor.settleBracket]
  split
  · exact sound.map_content_reindentLine
  · rfl

/-- A closing bracket changes a margin at most. -/
theorem Sound.map_content_typeCharacter
    (untyped : isTyped c true = false)
    (opensNone : closing? c = none) :
    (editor.typeCharacter c true).editor.document.lines.map Indent.content =
      editor.document.lines.map Indent.content := by
  by_cases settles : [c] ∈ electricBrackets
  · have closed := (sound.typeClosing c true).map_content_settleBracket
    rw [document_typeClosing_of_untyped untyped] at closed
    obtain ⟨bracket, same, electric⟩ := exists_isElectric settles
    obtain rfl := List.singleton_inj.mp same
    rw [Editor.typeCharacter, opensNone]
    dsimp only
    rw [if_pos electric.isClosing_eq, if_pos settles]
    exact closed
  · rw [document_typeCharacter_of_untyped untyped opensNone settles]

/-! ## Opening brackets -/

/-- What closes it goes in place of the selection, with the cursor before it. -/
theorem Sound.isAt_typeOpening_of_untyped
    {close : CodePoint}
    (untyped : isTyped c true = false)
    (pair : IsPair c close) :
    (editor.typeCharacter c true).editor.IsAt
      (editor.content.take editor.cursor.first)
      (Utf16.encode [close] ++ editor.content.drop editor.cursor.last) := by
  have closed :=
    sound.isAt_putIn pair.closeKey.isTyped_eq pair.closeKey.inLine
  rw [Editor.typeCharacter, pair.closing?_opening]
  dsimp only
  rw [Editor.typePair, Editor.typePlain,
    if_neg (ne_true_of_eq_false untyped)]
  exact isAt_backOver pair.closeKey closed

end Keys

theorem isPair_of_closing?
    {c close : CodePoint}
    (opens : closing? c = some close) :
    IsPair c close := by
  rcases Option.map_eq_some_iff.mp opens with ⟨pair, found, rfl⟩
  have same : pair.1 = c := by
    simpa using List.find?_some found
  have member := List.mem_of_find?_eq_some found
  rw [← same]
  exact isPair_of_mem member

/-! ## Texts -/

/-- What closes the opening brackets of a text, the last one first. -/
def closersOf (text : Text) : Text :=
  (text.filterMap closing?).reverse

theorem closersOf_cons_of_none
    {c : CodePoint}
    (opensNone : closing? c = none)
    (text : Text) :
    closersOf (c :: text) = closersOf text := by
  rw [closersOf, List.filterMap_cons_none opensNone, closersOf]

theorem closersOf_cons_of_some
    {c close : CodePoint}
    (opens : closing? c = some close)
    (text : Text) :
    closersOf (c :: text) = closersOf text ++ [close] := by
  rw [closersOf, List.filterMap_cons_some opens, List.reverse_cons, closersOf]

section Texts

variable
    {editor : Editor}
    (sound : editor.Sound)
    {written : Text}
    (untyped : ∀ c ∈ written, isTyped c true = false)

theorem document_typeText_of_untyped
    (untyped : ∀ c ∈ written, isTyped c true = false)
    (opensNone : ∀ c ∈ written, closing? c = none)
    (settlesNone : ∀ c ∈ written, [c] ∉ electricBrackets) :
    (editor.typeText written true).editor.document = editor.document := by
  induction written generalizing editor with
  | nil => rfl
  | cons c written induction =>
      rw [List.forall_mem_cons] at untyped opensNone settlesNone
      rw [editor_typeText_cons,
        induction untyped.2 opensNone.2 settlesNone.2,
        document_typeCharacter_of_untyped untyped.1 opensNone.1 settlesNone.1]

include sound untyped

theorem Sound.map_content_typeText
    (opensNone : ∀ c ∈ written, closing? c = none) :
    (editor.typeText written true).editor.document.lines.map
        Indent.content =
      editor.document.lines.map Indent.content := by
  induction written generalizing editor with
  | nil => rfl
  | cons c written induction =>
      rw [List.forall_mem_cons] at untyped opensNone
      rw [editor_typeText_cons,
        induction (sound.typeCharacter c true) untyped.2 opensNone.2,
        sound.map_content_typeCharacter untyped.1 opensNone.1]

/-- Each opening bracket puts what closes it behind the cursor. -/
theorem Sound.isAt_typeText_of_isAt
    (closesNone : ∀ c ∈ written, isClosing c = false)
    {before after : List CodeUnit}
    (stands : editor.IsAt before after) :
    (editor.typeText written true).editor.IsAt before
      (Utf16.encode (closersOf written) ++ after) := by
  induction written generalizing editor after with
  | nil => exact stands
  | cons c written induction =>
      rw [List.forall_mem_cons] at untyped closesNone
      have reached := sound.typeCharacter c true
      rw [editor_typeText_cons]
      cases opens : closing? c with
      | none =>
          rw [closersOf_cons_of_none opens]
          apply induction reached untyped.2 closesNone.2
          rw [typeCharacter_of_untyped untyped.1 opens closesNone.1]
          exact stands
      | some close =>
          have opened :=
            sound.isAt_typeOpening_of_untyped untyped.1
              (isPair_of_closing? opens)
          rw [stands.take_first_eq, stands.drop_last_eq] at opened
          have typed := induction reached untyped.2 closesNone.2 opened
          rwa [closersOf_cons_of_some opens, Utf16.encode_append,
            List.append_assoc]

/-- The first of them takes the place of the selection. -/
theorem Sound.isAt_typeText_of_opens
    (closesNone : ∀ c ∈ written, isClosing c = false)
    (opens : closersOf written ≠ []) :
    (editor.typeText written true).editor.IsAt
      (editor.content.take editor.cursor.first)
      (Utf16.encode (closersOf written) ++
        editor.content.drop editor.cursor.last) := by
  induction written generalizing editor with
  | nil => exact absurd rfl opens
  | cons c written induction =>
      rw [List.forall_mem_cons] at untyped closesNone
      rw [editor_typeText_cons]
      cases own : closing? c with
      | none =>
          rw [closersOf_cons_of_none own] at opens ⊢
          rw [typeCharacter_of_untyped untyped.1 own closesNone.1]
          exact induction sound untyped.2 closesNone.2 opens
      | some close =>
          have opened :=
            sound.isAt_typeOpening_of_untyped untyped.1
              (isPair_of_closing? own)
          have typed :=
            (sound.typeCharacter c true).isAt_typeText_of_isAt untyped.2
              closesNone.2 opened
          rwa [closersOf_cons_of_some own, Utf16.encode_append,
            List.append_assoc]

end Texts

/--
Keys of a session that put nothing in while Control is held: without opening
brackets among them every line keeps what stands behind its margin, and
without round and curly closing ones as well the document stays as it is.
Without closing brackets among them, what closes the opening ones goes in place
of the selection, with the cursor in front of it.
-/
theorem typeText_control_session
    (palette : Palette)
    (mode : Language.Mode)
    (text : Text)
    (commands : List Command)
    {written : Text}
    (untyped : ∀ c ∈ written, isTyped c true = false) :
    let editor := session palette mode text commands
    let typed := (editor.typeText written true).editor
    ((∀ c ∈ written, closing? c = none) →
        typed.document.lines.map Indent.content =
            editor.document.lines.map Indent.content ∧
          ((∀ c ∈ written, [c] ∉ electricBrackets) →
            typed.document = editor.document)) ∧
      ((∀ c ∈ written, isClosing c = false) →
        closersOf written ≠ [] →
          typed.content =
              editor.content.take editor.cursor.first ++
                (Utf16.encode (closersOf written) ++
                  editor.content.drop editor.cursor.last) ∧
            typed.cursor = .atPosition editor.cursor.first) := by
  have sound := sound_session palette mode text commands
  generalize session palette mode text commands = editor at sound ⊢
  refine
    ⟨fun opensNone => ⟨?_, fun settlesNone => ?_⟩, fun closesNone opens => ?_⟩
  · exact sound.map_content_typeText untyped opensNone
  · exact document_typeText_of_untyped untyped opensNone settlesNone
  · have typed := sound.isAt_typeText_of_opens untyped closesNone opens
    have start : editor.cursor.first ≤ editor.content.length :=
      Nat.le_trans (Nat.min_le_left _ _) sound.position_le
    refine ⟨typed.content_eq, ?_⟩
    rw [typed.cursor_eq, List.length_take_of_le start]

/-- Two opening brackets over a selection, and a letter between them. -/
theorem typeText_control_sample :
    let written := Text.ofString "(c["
    let editor := session .dark .scallop (Text.ofString "xyz") [.select 2 1]
    let typed := (editor.typeText written true).editor
    (∀ c ∈ written, isTyped c true = false) ∧
      (∀ c ∈ written, isClosing c = false) ∧
      closersOf written = Text.ofString "])" ∧
      typed.text = Text.ofString "x])z" ∧ typed.cursor = .atPosition 1 := by
  have untyped : ∀ c ∈ Text.ofString "(c[", isTyped c true = false := by
    decide +kernel
  have closesNone : ∀ c ∈ Text.ofString "(c[", isClosing c = false := by
    decide +kernel
  have typed :=
    (typeText_control_session .dark .scallop (Text.ofString "xyz")
      [.select 2 1] untyped).2 closesNone (by decide +kernel)
  exact
    ⟨untyped, closesNone, by decide +kernel,
      (congrArg plainText typed.1).trans (by decide +kernel),
      typed.2.trans (by decide +kernel)⟩

/-- An opening bracket edits an empty document. -/
theorem typeText_control_edits :
    let written := [CodePoint.ofChar '(']
    let editor := session .dark .scallop [] []
    let typed := (editor.typeText written true).editor
    (∀ c ∈ written, isTyped c true = false) ∧
      editor.text = [] ∧ typed.text = Text.ofString ")" := by
  decide +kernel

end ClauseEditor.Editor
