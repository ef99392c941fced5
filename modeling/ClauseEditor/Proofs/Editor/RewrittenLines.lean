import ClauseEditor.Proofs.Editor.Tidying
import ClauseEditor.Proofs.Editor.Toggling

/-!
# Commands that rewrite lines

Toggling comments and taking a level of indentation off make new lines out of
old ones.  In the editor they do so with the lines that the selection touches,
and every other line stays as it is.

Toggling goes by the units of the lines.  The lines read as the texts that were
put there if the mark does, because what a line has lost or gained borders on
characters that are no halves of surrogate pairs.
-/

namespace ClauseEditor

/-- A part that stands somewhere in a text is found there or before. -/
theorem Text.exists_indexOf?_le
    {text part : Text}
    {position : Nat}
    (inside : position ≤ text.length)
    (stands : Text.startsWith (text.drop position) part = true) :
    ∃ first ≤ position, text.indexOf? part = some first := by
  induction text generalizing position with
  | nil =>
      have none : part = [] := by
        rw [List.drop_nil] at stands
        exact List.prefix_nil.mp (List.isPrefixOf_iff_prefix.mp stands)
      exact ⟨0, Nat.zero_le _, by rw [Text.indexOf?, if_pos none]⟩
  | cons c text induction =>
      rw [Text.indexOf?]
      by_cases here : Text.startsWith (c :: text) part = true
      · exact ⟨0, Nat.zero_le _, if_pos here⟩
      · rw [if_neg here]
        cases position with
        | zero => exact absurd stands here
        | succ position =>
            obtain ⟨first, before, found⟩ :=
              induction (Nat.le_of_succ_le_succ inside) stands
            exact ⟨first + 1, Nat.succ_le_succ before, by rw [found]; rfl⟩

namespace Commenting

variable {mark line : Text}

/-- Of a comment, only blank characters stand before what is taken away. -/
theorem exists_uncomment_eq_of_isCommented
    (commented : isCommented mark line = true) :
    ∃ before removed behind,
      line = before ++ (removed ++ behind) ∧
        uncomment mark line = before ++ behind ∧
        Text.isBlank before = true := by
  have rest : line.drop (depth line) = Text.stripLeft line := by
    have parted := congrArg (List.drop (depth line))
      (blanks_append_stripLeft line).symm
    rwa [depth_eq line, List.drop_left, ← depth_eq line] at parted
  have stands : Text.startsWith (line.drop (depth line)) mark = true := by
    rw [rest]
    exact commented
  obtain ⟨position, shallow, found⟩ :=
    Text.exists_indexOf?_le (depth_le_length line) stands
  have parted (width : Nat) :
      line =
        line.take position ++
          ((line.drop position).take width ++
            line.drop (position + width)) := by
    rw [← List.drop_drop, List.take_append_drop, List.take_append_drop]
  have blank := isBlank_take shallow
  rw [uncomment, found]
  dsimp only
  split
  · refine ⟨_, _, _, parted (mark.length + 1), ?_, blank⟩
    rw [List.drop_drop, Nat.add_assoc]
  · exact ⟨_, _, _, parted mark.length, rfl, blank⟩

/-- What toggling makes of a line. -/
theorem cases_of_mem_toggle
    {lines : List Text}
    {new : Text}
    (listed : new ∈ toggle mark lines) :
    ∃ line ∈ lines,
      new = line ∨
        (isCommented mark line = true ∧ new = uncomment mark line) ∨
        ∃ position ≤ depth line, new = comment mark position line := by
  by_cases all : AllCommented mark lines
  · rw [toggle_of_allCommented all, onContent] at listed
    rcases List.mem_map.mp listed with ⟨line, member, rfl⟩
    refine ⟨line, member, ?_⟩
    split
    · exact .inl rfl
    · rename_i visible
      exact .inr (.inl ⟨all line member (Bool.eq_false_iff.mpr visible), rfl⟩)
  · rw [toggle_of_not_allCommented all, onContent] at listed
    rcases List.mem_map.mp listed with ⟨line, member, rfl⟩
    refine ⟨line, member, ?_⟩
    split
    · exact .inl rfl
    · rename_i visible
      exact .inr (.inr
        ⟨_, commentPosition_le member (Bool.eq_false_iff.mpr visible), rfl⟩)

end Commenting

namespace Document

/-! ## Lines that are put into a document -/

/-- The text holds no line end. -/
def IsUnbroken (text : Text) : Prop :=
  ∀ unit ∈ Utf16.encode text, endsLine unit = false

instance (text : Text) : Decidable (IsUnbroken text) :=
  inferInstanceAs
    (Decidable (∀ unit ∈ Utf16.encode text, endsLine unit = false))

theorem isUnbroken_append {left right : Text} :
    IsUnbroken (left ++ right) ↔ IsUnbroken left ∧ IsUnbroken right := by
  rw [IsUnbroken, Utf16.encode_append]
  exact List.forall_mem_append

theorem IsUnbroken.contentOf_eq
    {text : Text}
    (unbroken : IsUnbroken text) :
    contentOf text = Utf16.encode text :=
  normalised_of_forall unbroken

/-- Unbroken lines that make up a content are its lines. -/
theorem linesOf_contentOfLines_of_isUnbroken
    {texts : List Text}
    (nonempty : texts ≠ [])
    (unbroken : ∀ text ∈ texts, IsUnbroken text) :
    linesOf (contentOfLines texts) = texts.map Utf16.encode := by
  have units : texts.map contentOf = texts.map Utf16.encode :=
    List.map_congr_left fun text member => (unbroken text member).contentOf_eq
  rw [linesOf_eq, contentOfLines, units]
  apply List.splitOn_intercalate separator
  · intro line listed
    rcases List.mem_map.mp listed with ⟨text, member, rfl⟩
    intro inside
    exact absurd (unbroken text member separator inside) (by decide)
  · exact fun none => nonempty (List.map_eq_nil_iff.mp none)

section Toggle

variable
    {mark new : Text}
    {lines : List Text}
    (listed : new ∈ Commenting.toggle mark lines)

include listed

/-- Toggling breaks no line if the mark does not. -/
theorem isUnbroken_of_mem_toggle
    (markUnbroken : IsUnbroken mark)
    (unbroken : ∀ line ∈ lines, IsUnbroken line) :
    IsUnbroken new := by
  obtain ⟨line, member, same | ⟨-, rfl⟩ | ⟨position, -, rfl⟩⟩ :=
    Commenting.cases_of_mem_toggle listed
  · rw [same]
    exact unbroken line member
  · obtain ⟨before, removed, behind, parted, kept⟩ :=
      Commenting.exists_uncomment_eq mark line
    have whole := unbroken line member
    rw [parted, isUnbroken_append, isUnbroken_append] at whole
    rw [kept, isUnbroken_append]
    exact ⟨whole.1.1, whole.2⟩
  · obtain ⟨before, behind, parted, added⟩ :=
      Commenting.exists_comment_eq mark line position
    have whole := unbroken line member
    rw [parted, isUnbroken_append] at whole
    rw [added, isUnbroken_append, isUnbroken_append, isUnbroken_append]
    exact ⟨⟨whole.1, markUnbroken, by decide⟩, whole.2⟩

/-- What toggling makes of a line is read back if the mark is. -/
theorem isLine_of_mem_toggle
    (markIsLine : IsLine mark)
    (areLines : ∀ line ∈ lines, IsLine line) :
    IsLine new := by
  refine
    ⟨isUnbroken_of_mem_toggle listed markIsLine.whole fun line member =>
      (areLines line member).whole, ?_⟩
  obtain ⟨line, member, same | ⟨commented, rfl⟩ | ⟨position, shallow, rfl⟩⟩ :=
    Commenting.cases_of_mem_toggle listed
  · rw [same]
    exact (areLines line member).readBack
  · obtain ⟨before, removed, behind, parted, kept, blank⟩ :=
      Commenting.exists_uncomment_eq_of_isCommented commented
    have read :
        Utf16.decode (Utf16.encode line) = before ++ removed ++ behind := by
      rw [(areLines line member).readBack, List.append_assoc]
      exact parted
    rw [kept, Utf16.encode_append,
      Utf16.decode_encode_append (Text.isPlain_of_isBlank blank),
      Utf16.decode_encode_of_append read]
  · exact
      (Editor.isLine_comment markIsLine (areLines line member)
        shallow).readBack

end Toggle

end Document

namespace Indent

/-- A level that is taken off is plain text in front of the line. -/
theorem exists_outdent_eq
    {unit : Text}
    (plain : Utf16.IsPlain unit)
    (line : Text) :
    ∃ front,
      line = front ++ outdent unit line ∧ Utf16.IsPlain front := by
  unfold outdent
  split
  · rename_i starts
    obtain ⟨rest, rfl⟩ := List.isPrefixOf_iff_prefix.mp starts
    exact ⟨unit, by rw [List.drop_left], plain⟩
  · have none : Utf16.IsPlain [] := by decide
    cases line with
    | nil => exact ⟨[], rfl, none⟩
    | cons c rest =>
        dsimp only
        split
        · rename_i tab
          exact ⟨[c], rfl, by rw [tab]; decide⟩
        · exact ⟨[], rfl, none⟩

end Indent

namespace Editor

open Document

/-- Lines one after another in the place of as many others. -/
def rewriteLines
    (rewrite : List Text → List Text)
    (first count : Nat)
    (lines : List Text) :
    List Text :=
  lines.take first ++
    (rewrite ((lines.drop first).take count) ++ lines.drop (first + count))

theorem length_rewriteLines
    {rewrite : List Text → List Text}
    (keeps : ∀ lines, (rewrite lines).length = lines.length)
    (first count : Nat)
    (lines : List Text) :
    (rewriteLines rewrite first count lines).length = lines.length := by
  rw [rewriteLines, List.length_append, List.length_append, keeps,
    ← List.length_append, ← List.drop_drop, List.take_append_drop,
    ← List.length_append, List.take_append_drop]

theorem forall_mem_rewriteLines
    {holds : Text → Prop}
    {rewrite : List Text → List Text}
    {first count : Nat}
    {lines : List Text}
    (kept : ∀ line ∈ lines, holds line)
    (rewritten :
      ∀ lines,
        (∀ line ∈ lines, holds line) → ∀ new ∈ rewrite lines, holds new) :
    ∀ line ∈ rewriteLines rewrite first count lines, holds line := by
  intro line listed
  rw [rewriteLines, List.mem_append, List.mem_append] at listed
  rcases listed with above | between | below
  · exact kept line (List.mem_of_mem_take above)
  · refine rewritten _ ?_ line between
    intro old member
    exact kept old (List.mem_of_mem_drop (List.mem_of_mem_take member))
  · exact kept line (List.mem_of_mem_drop below)

/-- Lines that change by themselves can be changed one after another. -/
theorem rewriteLines_set
    (change : Text → Text)
    {lines : List Text}
    {first : Nat}
    (listed : first < lines.length)
    (count : Nat) :
    rewriteLines (List.map change) (first + 1) count
        (lines.set first (change (lines.getD first []))) =
      rewriteLines (List.map change) first (count + 1) lines := by
  obtain ⟨left, line, right, rfl, rfl⟩ :
      ∃ left line right,
        lines = left ++ line :: right ∧ left.length = first :=
    ⟨lines.take first, lines[first], lines.drop (first + 1),
      by rw [← List.drop_eq_getElem_cons listed, List.take_append_drop],
      List.length_take_of_le (Nat.le_of_lt listed)⟩
  have here : (left ++ line :: right).getD left.length [] = line := by
    rw [List.getD_eq_getElem _ _ listed, List.getElem_append_right
      (Nat.le_refl _)]
    simp
  have changed :
      (left ++ line :: right).set left.length (change line) =
        left ++ change line :: right := by
    rw [List.set_append_right _ _ (Nat.le_refl _), Nat.sub_self,
      List.set_cons_zero]
  rw [here, changed, rewriteLines, rewriteLines, List.take_length_add_append,
    List.drop_length_add_append, List.take_left, List.drop_left,
    List.take_succ_cons, Nat.add_assoc, List.drop_length_add_append,
    List.drop_length_add_append, Nat.add_comm 1, List.drop_succ_cons,
    List.drop_succ_cons]
  simp

/-! ## Toggling -/

/-- The number of the last line that commenting acts on. -/
def lastCommented (editor : Editor) : Nat :=
  let first := lineAt editor.content editor.cursor.first
  let last := lineAt editor.content editor.cursor.last
  if editor.cursor.hasSelection ∧ first < last ∧
      editor.cursor.last = lineStart editor.content last then
    last - 1
  else last

/-- Several lines are touched by a selection only. -/
theorem hasSelection_of_lineAt_lt
    {editor : Editor}
    (several :
      lineAt editor.content editor.cursor.first <
        lineAt editor.content editor.cursor.last) :
    editor.cursor.hasSelection = true := by
  rw [Cursor.hasSelection, decide_eq_true_iff]
  intro same
  rw [Cursor.first, Cursor.last, same, Nat.min_self, Nat.max_self] at several
  exact Nat.lt_irrefl _ several

theorem commentedLines_eq_range' (editor : Editor) :
    editor.commentedLines =
      List.range' (lineAt editor.content editor.cursor.first)
        (editor.lastCommented + 1 -
          lineAt editor.content editor.cursor.first) := by
  rw [commentedLines, lastCommented]
  by_cases several :
      lineAt editor.content editor.cursor.first <
        lineAt editor.content editor.cursor.last
  · simp only [several, hasSelection_of_lineAt_lt several, true_and]
  · simp only [several, false_and, and_false]

theorem lastCommented_mem (editor : Editor) :
    lineAt editor.content editor.cursor.first ≤ editor.lastCommented ∧
      editor.lastCommented < (linesOf editor.content).length := by
  have ordered :=
    lineAt_mono editor.content editor.cursor.first_le_last
  have inside := lineAt_lt_length editor.content editor.cursor.last
  rw [lastCommented]
  split
  · rename_i several
    exact ⟨Nat.le_sub_one_of_lt several.2.1, by omega⟩
  · exact ⟨ordered, inside⟩

theorem rewriteLines_toggle_ne_nil
    (editor : Editor)
    (mark : Text)
    (first count : Nat) :
    rewriteLines (Commenting.toggle mark) first count
        editor.document.lines ≠
      [] := by
  apply List.ne_nil_of_length_pos
  rw [length_rewriteLines (Commenting.length_toggle mark)]
  exact List.length_pos_iff.mpr (lines_ne_nil editor)

section Toggle

variable
    {editor : Editor}
    (sound : editor.Sound)

include sound

/-- Toggling puts the toggled lines in the place of those it acts on. -/
theorem Sound.content_toggleComment_eq :
    let first := lineAt editor.content editor.cursor.first
    editor.toggleComment.editor.content =
      contentOfLines
        (rewriteLines (Commenting.toggle editor.mode.lineComment) first
          (editor.lastCommented + 1 - first) editor.document.lines) := by
  obtain ⟨ordered, inside⟩ := editor.lastCommented_mem
  have count :
      editor.lastCommented + 1 -
          lineAt editor.content editor.cursor.first =
        editor.lastCommented - lineAt editor.content editor.cursor.first +
          1 := by
    omega
  have numbers := editor.commentedLines_eq_range'
  have present :
      lineAt editor.content editor.cursor.first +
          (editor.lastCommented -
              lineAt editor.content editor.cursor.first + 1) ≤
        (linesOf editor.content).length := by
    omega
  dsimp only
  rw [count] at numbers ⊢
  rw [sound.content_toggleComment present numbers, map_snd_toggledFrom,
    textsFrom_eq present, rewriteLines, Document.lines]

end Toggle

/-! ## Outdenting -/

section Outdent

variable
    {unit : Text}
    (plain : Utf16.IsPlain unit)

include plain

/-- What is taken off a line is as many units as characters. -/
theorem length_sub_length_outdent
    {units : List CodeUnit}
    {line : Text}
    (decoded : Utf16.decode units = line) :
    line.length - (Indent.outdent unit line).length ≤ units.length ∧
      Utf16.decode
          (units.drop (line.length - (Indent.outdent unit line).length)) =
        Indent.outdent unit line := by
  obtain ⟨front, parted, frontPlain⟩ := Indent.exists_outdent_eq plain line
  have cut : line.length - (Indent.outdent unit line).length =
      front.length := by
    have length := congrArg List.length parted
    rw [List.length_append] at length
    omega
  have read := decoded.trans parted
  have held :
      units =
        Utf16.encode front ++ Utf16.encode (Indent.outdent unit line) := by
    rw [← Utf16.encode_append, ← read, Utf16.encode_decode]
  have width := Utf16.length_encode_of_isPlain frontPlain
  rw [cut, held, ← width, List.drop_left, List.length_append]
  exact ⟨Nat.le_add_right _ _, Utf16.decode_encode_of_append read⟩

/-- Taking a level off a line replaces its text. -/
theorem textsOf_outdentLine
    {draft : Draft}
    {line : Nat}
    (present : line < (linesOf draft.content).length) :
    textsOf (outdentLine unit draft line).content =
      (textsOf draft.content).set line
        (Indent.outdent unit ((textsOf draft.content).getD line [])) := by
  obtain ⟨within, read⟩ :=
    length_sub_length_outdent plain (getD_textsOf present).symm
  have replaced := textsOf_replaceFront present within List.not_mem_nil
  rw [List.append_nil, List.nil_append, read] at replaced
  rw [outdentLine, Draft.content_remove _ (Nat.le_add_right _ _)]
  exact replaced

/-- Lines one after another lose a level each. -/
theorem textsOf_foldl_outdentLine
    {draft : Draft}
    {first count : Nat}
    (present : first + count ≤ (linesOf draft.content).length) :
    textsOf
        ((List.range' first count).foldl (outdentLine unit) draft).content =
      rewriteLines (List.map (Indent.outdent unit)) first count
        (textsOf draft.content) := by
  induction count generalizing draft first with
  | zero => simp [rewriteLines]
  | succ count induction =>
      have here : first < (linesOf draft.content).length := by omega
      have listed : first < (textsOf draft.content).length := by
        rwa [length_textsOf]
      have texts := textsOf_outdentLine plain here
      have length := congrArg List.length texts
      rw [List.length_set, length_textsOf, length_textsOf] at length
      rw [List.range'_succ, List.foldl_cons, induction (by omega), texts,
        rewriteLines_set _ listed]

end Outdent

theorem isPlain_spaces (count : Nat) :
    Utf16.IsPlain (Text.spaces count) := by
  intro c member
  rw [Text.spaces, List.mem_replicate] at member
  rw [member.2]
  decide

section Commands

variable
    {editor : Editor}
    (sound : editor.Sound)

include sound

/-- By their units the lines are toggled if the mark breaks none of them. -/
theorem Sound.linesOf_toggleComment
    (unbroken : IsUnbroken editor.mode.lineComment) :
    let first := lineAt editor.content editor.cursor.first
    linesOf editor.toggleComment.editor.content =
      (rewriteLines (Commenting.toggle editor.mode.lineComment) first
        (editor.lastCommented + 1 - first) editor.document.lines).map
          Utf16.encode := by
  intro first
  have content := sound.content_toggleComment_eq
  dsimp only at content
  rw [content]
  apply linesOf_contentOfLines_of_isUnbroken
  · exact rewriteLines_toggle_ne_nil editor _ _ _
  · apply forall_mem_rewriteLines
    · exact fun line listed => (sound.settled.isLine listed).whole
    · exact fun lines whole new listed =>
        isUnbroken_of_mem_toggle listed unbroken whole

/-- The lines read as the toggled ones if the mark is read back. -/
theorem Sound.lines_toggleComment
    (isLine : IsLine editor.mode.lineComment) :
    let first := lineAt editor.content editor.cursor.first
    editor.toggleComment.editor.document.lines =
      rewriteLines (Commenting.toggle editor.mode.lineComment) first
        (editor.lastCommented + 1 - first) editor.document.lines := by
  intro first
  have texts := congrArg textsOf sound.content_toggleComment_eq
  refine texts.trans (textsOf_contentOfLines ?_ ?_)
  · exact rewriteLines_toggle_ne_nil editor _ _ _
  · apply forall_mem_rewriteLines
    · exact fun line listed => sound.settled.isLine listed
    · exact fun lines areLines new listed =>
        isLine_of_mem_toggle listed isLine areLines

/-- Outdenting takes a level off the lines that the selection touches. -/
theorem Sound.lines_outdentSelection :
    let first := lineAt editor.content editor.cursor.first
    let last := lineAt editor.content editor.cursor.last
    editor.outdentSelection.editor.document.lines =
      rewriteLines (List.map (Indent.outdent editor.indentText)) first
        (last + 1 - first) editor.document.lines := by
  have inside := lineAt_lt_length editor.content editor.cursor.last
  have ordered :=
    lineAt_mono editor.content editor.cursor.first_le_last
  have held : editor.outdentSelection.editor.content = _ :=
    content_finish (isFrom_foldl_outdentLine sound.draft editor.indentText
      editor.selectedLines)
  have texts :=
    @textsOf_foldl_outdentLine editor.indentText (isPlain_spaces _)
      editor.draft (lineAt editor.content editor.cursor.first)
      (lineAt editor.content editor.cursor.last + 1 -
        lineAt editor.content editor.cursor.first) (by
          change _ ≤ (linesOf editor.content).length
          omega)
  exact (congrArg textsOf held).trans texts

end Commands

/--
In every session toggling comments and the back tab put new lines in the place
of the ones that they act on, which are those that the selection touches, for
toggling without a last one that the selection only reaches the start of.
There are as many lines as before, and the others are the same.  The mark must
not break the lines, and the toggled lines read as such if the mark does.
-/
theorem lineCommands_session
    (palette : Palette)
    (mode : Language.Mode)
    (text : Text)
    (commands : List Command) :
    let editor := session palette mode text commands
    let lines := editor.document.lines
    let mark := editor.mode.lineComment
    let first := lineAt editor.content editor.cursor.first
    let last := lineAt editor.content editor.cursor.last
    let stop :=
      if editor.cursor.hasSelection ∧ first < last ∧
          editor.cursor.last = lineStart editor.content last then
        last - 1
      else last
    let toggled :=
      rewriteLines (Commenting.toggle mark) first (stop + 1 - first) lines
    let outdented :=
      rewriteLines (List.map (Indent.outdent editor.indentText)) first
        (last + 1 - first) lines
    (IsUnbroken mark →
        linesOf editor.toggleComment.editor.content =
            toggled.map Utf16.encode ∧
          toggled.length = lines.length ∧
          (Utf16.decode (Utf16.encode mark) = mark →
            editor.toggleComment.editor.document.lines = toggled)) ∧
      (editor.pressKey .backtab).editor.document.lines = outdented ∧
      outdented.length = lines.length := by
  intro editor lines mark first last stop toggled outdented
  have sound : editor.Sound := sound_session palette mode text commands
  refine ⟨fun unbroken => ⟨?_, ?_, fun readBack => ?_⟩, ?_, ?_⟩
  · exact sound.linesOf_toggleComment unbroken
  · exact length_rewriteLines (Commenting.length_toggle mark) _ _ lines
  · exact sound.lines_toggleComment ⟨unbroken, readBack⟩
  · exact sound.lines_outdentSelection
  · exact length_rewriteLines (fun _ => List.length_map _) _ _ lines

/--
A selection from within a line to the start of the last one, over a character
beyond the Basic Multilingual Plane.
-/
theorem lineCommands_sample :
    let text :=
      Text.ofString "  a\n    " ++ CodePoint.ofNat 0x1F600 ::
        Text.ofString "b\n  c"
    let editor := session .dark .scallop text [.select 1 12]
    let emoji := CodePoint.ofNat 0x1F600
    IsUnbroken editor.mode.lineComment ∧
      editor.toggleComment.editor.document.lines =
        [Text.ofString "  // a",
          Text.ofString "  //   " ++ emoji :: Text.ofString "b",
          Text.ofString "  c"] ∧
      (editor.pressKey .backtab).editor.document.lines =
        [Text.ofString "a", Text.ofString "  " ++ emoji :: Text.ofString "b",
          Text.ofString "c"] := by
  intro text editor emoji
  have commands := lineCommands_session .dark .scallop text [.select 1 12]
  have unbroken : IsUnbroken editor.mode.lineComment := by decide +kernel
  have toggled := (commands.1 unbroken).2.2 (by decide +kernel)
  exact
    ⟨unbroken, toggled.trans (by decide +kernel),
      commands.2.1.trans (by decide +kernel)⟩

end Editor

end ClauseEditor
