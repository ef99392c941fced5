import ClauseEditor.Proofs.Editor.CursorLine
import ClauseEditor.Proofs.Editor.Keystrokes

/-!
# Brackets that settle their line

A round or curly closing bracket is put in, or stepped over if it is next to
the cursor.  If only blank characters stand in front of it in its line then,
the line goes to the column at which it belongs, and the cursor stays right
behind the bracket.  Otherwise nothing more happens.

The editor looks at the front of the line by a number of code points that is
counted in units.  Where a bracket alone stands in the front, each character
has one unit, so it does not matter.
-/

namespace ClauseEditor.Editor

open Document
open ClauseEditor.Indent

/-- The text in front of the cursor in its line. -/
def lineFront (editor : Editor) : Text :=
  Utf16.decode (unitsBefore editor.content editor.cursor.position)

/-- What a bracket needs for its line to be settled. -/
structure IsElectric (bracket : CodePoint) : Prop where
  mem_electricBrackets : [bracket] ∈ electricBrackets
  key : IsKey bracket
  isBlank_eq : bracket.isBlank = false
  attaches_eq : bracket.attaches = false
  closing?_eq : closing? bracket = none
  isClosing_eq : isClosing bracket = true

theorem isElectric_of_eq
    {bracket : CodePoint}
    (named :
      bracket = CodePoint.ofChar ')' ∨ bracket = CodePoint.ofNat 0x7D) :
    IsElectric bracket := by
  rcases named with rfl | rfl <;> constructor <;> decide

theorem exists_isElectric
    {text : Text}
    (member : text ∈ electricBrackets) :
    ∃ bracket, text = [bracket] ∧ IsElectric bracket := by
  rw [electricBrackets, List.mem_cons, List.mem_singleton] at member
  rcases member with round | curly
  · exact ⟨_, round, isElectric_of_eq (Or.inl rfl)⟩
  · exact ⟨_, curly, isElectric_of_eq (Or.inr rfl)⟩

/-! ## The front of the line -/

section Front

variable {editor : Editor}

/-- What stands in front of the cursor and ends no line is in the front. -/
theorem Sound.exists_lineFront_eq
    (sound : editor.Sound)
    {c : CodePoint}
    (key : IsKey c)
    {before rest after : List CodeUnit}
    (stands : editor.IsAt (before ++ .ofNat c.val :: rest) after)
    (whole : separator ∉ rest) :
    ∃ front, editor.lineFront = front ++ c :: Utf16.decode rest := by
  obtain ⟨front, units⟩ :=
    exists_unitsBefore_eq sound.position_le stands.take_position_eq
      (List.not_mem_cons_of_ne_of_not_mem key.ne_separator.symm whole)
  refine ⟨Utf16.decode front, ?_⟩
  rw [lineFront, units,
    Utf16.decode_append_cons _ (Utf16.isLow_ofNat_of_lt key.plain),
    Utf16.decode_cons_of_not_isHigh (Utf16.isHigh_ofNat_of_lt key.plain),
    key.single_eq]

theorem decode_encode_currentLine (editor : Editor) :
    Utf16.decode (Utf16.encode editor.currentLine) = editor.currentLine := by
  have present : editor.cursorLine < (linesOf editor.content).length :=
    lineAt_lt_length editor.content editor.cursor.position
  rw [currentLine, lines, encode_getD_textsOf present, getD_textsOf present]

theorem Sound.textBeforeCursor_eq_iff
    (sound : editor.Sound)
    {mark : CodePoint}
    (plain : mark.val < 0xD800) :
    editor.textBeforeCursor = [mark] ↔
      Text.strip editor.lineFront = [mark] := by
  have counted := Text.strip_take_decode_eq_iff sound.cursorColumn_le plain
  rw [decode_encode_currentLine] at counted
  exact counted

/-- A bracket in the front of the line is the one that can be alone there. -/
theorem Sound.settles_iff
    (sound : editor.Sound)
    {bracket : CodePoint}
    (electric : IsElectric bracket)
    (member : bracket ∈ editor.lineFront) :
    editor.textBeforeCursor ∈ electricBrackets ↔
      Text.strip editor.lineFront = [bracket] := by
  constructor
  · intro settles
    obtain ⟨mark, single, markElectric⟩ := exists_isElectric settles
    have alone :=
      (sound.textBeforeCursor_eq_iff markElectric.key.plain).mp single
    rcases Text.isBlank_or_eq_of_strip_eq alone member with blank | rfl
    · rw [electric.isBlank_eq] at blank
      cases blank
    · exact alone
  · intro alone
    rw [(sound.textBeforeCursor_eq_iff electric.key.plain).mpr alone]
    exact electric.mem_electricBrackets

section Alone

variable
    (sound : editor.Sound)
    {mark : CodePoint}
    (plain : mark.val < 0xD800)
    (alone : Text.strip editor.lineFront = [mark])

include sound plain alone

theorem Sound.length_lineFront :
    editor.lineFront.length = editor.cursorColumn := by
  rw [← Utf16.length_encode_of_isPlain (Text.isPlain_of_strip_eq plain alone),
    lineFront, Utf16.encode_decode, length_unitsBefore sound.position_le,
    cursorColumn]

theorem Sound.take_currentLine :
    editor.currentLine.take editor.cursorColumn = editor.lineFront := by
  have front := Utf16.take_decode_of_isPlain sound.cursorColumn_le
    (Text.isPlain_of_strip_eq plain alone)
  rwa [decode_encode_currentLine] at front

/-- The front of the line is moved as a line of its own would be. -/
theorem Sound.lineFront_reindentLine :
    editor.reindentLine.editor.lineFront =
      (aligned editor.style.tabWidth editor.lineFront 0
        (columnIn editor.style editor.document.lines
          editor.cursorLine)).line := by
  have stands := sound.standsAt_reindentLine
  have visible := Text.isBlank_eq_false_of_strip_eq alone
  have parts := List.take_append_drop editor.cursorColumn editor.currentLine
  rw [sound.take_currentLine plain alone] at parts
  rw [← parts, ← sound.length_lineFront plain alone,
    aligned_append _ _ visible] at stands
  -- The front is plain after the move too, so its length is a column again.
  have movedPlain :=
    Text.isPlain_of_strip_eq plain
      ((strip_aligned editor.style.tabWidth
        (columnIn editor.style editor.document.lines editor.cursorLine)
        editor.lineFront 0).trans alone)
  calc
    editor.reindentLine.editor.lineFront =
        Utf16.decode
          ((Utf16.encode editor.reindentLine.editor.currentLine).take
            editor.reindentLine.editor.cursorColumn) := rfl
    _ = _ := by
      rw [stands.currentLine_eq, stands.cursorColumn_eq, Utf16.encode_append,
        List.take_left' (Utf16.length_encode_of_isPlain movedPlain),
        Utf16.decode_encode fun c member => Or.inl (movedPlain c member)]

theorem Sound.strip_lineFront_reindentLine :
    Text.strip editor.reindentLine.editor.lineFront = [mark] := by
  rw [sound.lineFront_reindentLine plain alone, strip_aligned, alone]

theorem Sound.getLast?_lineFront_reindentLine :
    editor.reindentLine.editor.lineFront.getLast? =
      editor.lineFront.getLast? := by
  rw [sound.lineFront_reindentLine plain alone,
    getLast?_aligned _ _ (Text.isBlank_eq_false_of_strip_eq alone)]

end Alone

end Front

/-! ## Typing a bracket -/

section Bracket

variable
    {editor : Editor}
    (sound : editor.Sound)
    {bracket : CodePoint}
    (electric : IsElectric bracket)

include sound electric

/-- The bracket is stepped over or put in. -/
theorem Sound.content_cursor_typeClosing :
    let alone := (editor.typeClosing bracket false).editor
    if editor.IsNext bracket then
      alone.content = editor.content ∧
        alone.cursor =
          .atPosition (characterAfter editor.content editor.cursor.position)
    else
      alone.content =
          editor.content.take editor.cursor.first ++
            Utf16.encode [bracket] ++
            editor.content.drop editor.cursor.last ∧
        alone.cursor = .atPosition (editor.cursor.first + 1) := by
  dsimp only
  by_cases next : editor.IsNext bracket
  · rw [if_pos next, typeClosing_eq, if_pos next]
    exact ⟨rfl, rfl⟩
  · have typed :=
      sound.isAt_typePlain electric.key.isTyped_eq electric.key.inLine
    have start : editor.cursor.first ≤ editor.content.length :=
      Nat.le_trans (Nat.min_le_left _ _) sound.position_le
    have length :
        (editor.content.take editor.cursor.first ++
            Utf16.encode [bracket]).length = editor.cursor.first + 1 := by
      rw [List.length_append, List.length_take_of_le start,
        electric.key.encode_eq, List.length_singleton]
    rw [if_neg next, typeClosing_eq, if_neg next]
    exact ⟨typed.content_eq, length ▸ typed.cursor_eq⟩

/-- It stands in front of the cursor then, perhaps with marks behind it. -/
theorem Sound.exists_lineFront_typeClosing :
    ∃ front marks,
      (editor.typeClosing bracket false).editor.lineFront =
          front ++ bracket :: marks ∧
        ∀ mark ∈ marks, mark.attaches = true := by
  have reached := sound.typeClosing bracket false
  rw [typeClosing_eq] at reached ⊢
  by_cases next : editor.IsNext bracket
  · rw [if_pos next] at reached ⊢
    obtain ⟨rest, follows⟩ := next.exists_firstLine_eq electric.key
    have stands := between_take_drop (characterAfter_le sound.position_le)
    have whole := separator_notMem_encode follows
    have readBack :
        Utf16.decode
            (Utf16.encode ((firstLine rest).takeWhile CodePoint.attaches)) =
          (firstLine rest).takeWhile CodePoint.attaches :=
      Utf16.decode_encode_front List.takeWhile_append_dropWhile.symm
    rw [electric.key.encode_cons_eq] at whole
    rw [take_characterAfter follows, electric.key.encode_cons_eq] at stands
    obtain ⟨front, shown⟩ :=
      reached.exists_lineFront_eq electric.key stands
        (List.not_mem_of_not_mem_cons whole)
    refine
      ⟨front, (firstLine rest).takeWhile CodePoint.attaches, ?_,
        List.all_eq_true.mp List.all_takeWhile⟩
    rw [shown, readBack]
  · rw [if_neg next] at reached ⊢
    have stands :=
      sound.isAt_typePlain electric.key.isTyped_eq electric.key.inLine
    rw [electric.key.encode_eq] at stands
    obtain ⟨front, shown⟩ :=
      reached.exists_lineFront_eq electric.key stands List.not_mem_nil
    exact ⟨front, [], shown, nofun⟩

/-- A bracket that is alone in front of the cursor has no marks. -/
theorem Sound.getLast?_lineFront_typeClosing
    (alone :
      Text.strip (editor.typeClosing bracket false).editor.lineFront =
        [bracket]) :
    (editor.typeClosing bracket false).editor.lineFront.getLast? =
      some bracket := by
  obtain ⟨front, marks, shown, attached⟩ :=
    sound.exists_lineFront_typeClosing electric
  cases marks with
  | nil => rw [shown, List.getLast?_concat]
  | cons mark marks =>
      have marked := attached mark List.mem_cons_self
      have member :
          mark ∈ (editor.typeClosing bracket false).editor.lineFront := by
        rw [shown]
        simp
      rcases Text.isBlank_or_eq_of_strip_eq alone member with blank | rfl
      · rw [CodePoint.isBlank_eq_false_of_attaches marked] at blank
        cases blank
      · rw [electric.attaches_eq] at marked
        cases marked

/-- Typing the bracket settles its line if the bracket is alone there. -/
theorem Sound.typeCharacter_eq :
    (editor.typeCharacter bracket false).editor =
      if Text.strip (editor.typeClosing bracket false).editor.lineFront =
          [bracket] then
        (editor.typeClosing bracket false).editor.reindentLine.editor
      else (editor.typeClosing bracket false).editor := by
  obtain ⟨front, marks, shown, -⟩ :=
    sound.exists_lineFront_typeClosing electric
  have member :
      bracket ∈ (editor.typeClosing bracket false).editor.lineFront := by
    rw [shown]
    simp
  have settles :=
    (sound.typeClosing bracket false).settles_iff electric member
  rw [Editor.typeCharacter, electric.closing?_eq]
  dsimp only
  rw [if_pos electric.isClosing_eq, if_pos electric.mem_electricBrackets,
    Outcome.andThen, Editor.settleBracket]
  dsimp only
  split
  case isTrue fires => rw [if_pos (settles.mp fires)]
  case isFalse rests =>
    rw [if_neg (mt settles.mpr rests)]
    rfl

/-- Another character in front of it that can be seen keeps it from that. -/
theorem Sound.typeCharacter_eq_of_visible
    {other : CodePoint}
    (member : other ∈ (editor.typeClosing bracket false).editor.lineFront)
    (visible : other.isBlank = false)
    (differs : other ≠ bracket) :
    (editor.typeCharacter bracket false).editor =
      (editor.typeClosing bracket false).editor := by
  rw [sound.typeCharacter_eq electric, if_neg]
  intro alone
  rcases Text.isBlank_or_eq_of_strip_eq alone member with blank | same
  · rw [visible] at blank
    cases blank
  · exact differs same

end Bracket

/--
A round or curly closing bracket that is typed in a session is stepped over
or put in.  If only blank characters stand in front of it in its line then,
its line stands at the column that an empty memo computes for it afterwards,
and the cursor stands in this line right behind the bracket.  Otherwise
nothing more happens.
-/
theorem typeBracket_session
    (palette : Palette)
    (mode : Language.Mode)
    (text : Text)
    (commands : List Command)
    (bracket : CodePoint)
    (named :
      bracket = CodePoint.ofChar ')' ∨ bracket = CodePoint.ofNat 0x7D) :
    let editor := session palette mode text commands
    let alone := (editor.typeClosing bracket false).editor
    let typed := (editor.typeCharacter bracket false).editor
    (if editor.IsNext bracket then
        alone.content = editor.content ∧
          alone.cursor =
            .atPosition (characterAfter editor.content editor.cursor.position)
      else
        alone.content =
            editor.content.take editor.cursor.first ++
              Utf16.encode [bracket] ++
              editor.content.drop editor.cursor.last ∧
          alone.cursor = .atPosition (editor.cursor.first + 1)) ∧
      (Text.strip typed.lineFront = [bracket] ↔
        Text.strip alone.lineFront = [bracket]) ∧
      (Text.strip typed.lineFront = [bracket] →
        marginWidth typed.style.tabWidth typed.currentLine =
            (columnOf .empty typed.document.lines typed.cursorLine
              typed.style).1 ∧
          typed.cursor.hasSelection = false ∧
          typed.cursorLine = alone.cursorLine ∧
          typed.lineFront.getLast? = some bracket) ∧
      (Text.strip typed.lineFront ≠ [bracket] →
        typed.content = alone.content ∧ typed.cursor = alone.cursor) := by
  have sound := sound_session palette mode text commands
  have electric := isElectric_of_eq named
  generalize session palette mode text commands = editor at sound ⊢
  have made := sound.content_cursor_typeClosing electric
  have settled := sound.typeCharacter_eq electric
  have reached := sound.typeClosing bracket false
  have last := sound.getLast?_lineFront_typeClosing electric
  dsimp only at made ⊢
  refine ⟨made, ?_⟩
  rw [settled]
  generalize (editor.typeClosing bracket false).editor = alone at reached last ⊢
  split
  case isTrue single =>
    have stands := reached.standsAt_reindentLine
    have kept := reached.strip_lineFront_reindentLine electric.key.plain single
    have behind :=
      (reached.getLast?_lineFront_reindentLine electric.key.plain single).trans
        (last single)
    exact
      ⟨⟨fun _ => single, fun _ => kept⟩,
        fun _ =>
          ⟨reached.marginWidth_reindentLine, stands.hasSelection_eq,
            stands.cursorLine_eq, behind⟩,
        fun differs => absurd kept differs⟩
  case isFalse other =>
    exact ⟨Iff.rfl, fun single => absurd single other, fun _ => ⟨rfl, rfl⟩⟩

/-- Stepping over a bracket that stands two columns to the right of its place. -/
theorem typeBracket_sample :
    let editor :=
      session .dark .scallop (Text.ofString "(\n  )b") [.select 4 4]
    let typed := (editor.typeCharacter (CodePoint.ofChar ')') false).editor
    editor.IsNext (CodePoint.ofChar ')') ∧
      Text.strip typed.lineFront = [CodePoint.ofChar ')'] ∧
      typed.text = Text.ofString "(\n)b" ∧
      marginWidth typed.style.tabWidth typed.currentLine =
        (columnOf .empty typed.document.lines typed.cursorLine
          typed.style).1 ∧
      typed.lineFront.getLast? = some (CodePoint.ofChar ')') := by
  have settled :=
    typeBracket_session .dark .scallop (Text.ofString "(\n  )b") [.select 4 4]
      (CodePoint.ofChar ')') (Or.inl rfl)
  have alone := settled.2.2.1 (by decide +kernel)
  exact
    ⟨by decide +kernel, by decide +kernel, by decide +kernel, alone.1,
      alone.2.2.2⟩

end ClauseEditor.Editor
