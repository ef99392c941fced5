import ClauseEditor.Editor.Reindenting
import ClauseEditor.Proofs.Document.Consistency
import ClauseEditor.Proofs.Document.Typing
import ClauseEditor.Proofs.Indent.Layout

/-!
# Lines moved inside an edit block

Moving a line to its column takes its margin out and puts another one in.  On
the texts of the lines that is the replacement of one text, `lineText`
becoming the aligned line; no other line changes, and nothing before the
start of the line does.

A margin is made of spaces and tabs, which are units of their own and end no
line.  So the units behind it are read as they were, whatever margin stands in
front of them.
-/

namespace ClauseEditor.Editor.Reindenting

open Document
open ClauseEditor.Indent

/-! ## Margins in a document -/

theorem val_of_isMargin
    {c : CodePoint}
    (isMargin : Indent.isMargin c = true) :
    c.val = 0x20 ∨ c.val = 0x09 := by
  simp only [Indent.isMargin, Bool.or_eq_true, decide_eq_true_eq] at isMargin
  rcases isMargin with rfl | rfl
  · exact Or.inl rfl
  · exact Or.inr rfl

theorem isPlain_margin (line : Text) : Utf16.IsPlain (margin line) := by
  intro c member
  have value := val_of_isMargin (isMargin_of_mem_margin member)
  omega

theorem endsLine_encode_margin (line : Text) :
    ∀ unit ∈ Utf16.encode (margin line), endsLine unit = false := by
  intro unit member
  rcases List.mem_flatMap.mp member with ⟨c, present, encoded⟩
  have value := val_of_isMargin (isMargin_of_mem_margin present)
  rw [Utf16.encodeOne_of_lt (isPlain_margin line c present),
    List.mem_singleton] at encoded
  subst encoded
  rcases value with space | tab
  · rw [space]
    decide
  · rw [tab]
    decide

/-- A margin enters a document as it is. -/
theorem contentOf_margin (line : Text) :
    contentOf (margin line) = Utf16.encode (margin line) :=
  normalised_of_forall (endsLine_encode_margin line)

theorem separator_notMem_contentOf_margin (line : Text) :
    separator ∉ contentOf (margin line) := by
  intro member
  rw [contentOf_margin] at member
  exact absurd (endsLine_encode_margin line separator member) (by decide)

section Margin

variable
    {units : List CodeUnit}
    {line : Text}
    (decoded : Utf16.decode units = line)

include decoded

/-- The units of a line begin with those of its margin. -/
theorem units_eq_margin_append :
    units =
      Utf16.encode (margin line) ++ Utf16.encode (Indent.content line) := by
  rw [← Utf16.encode_append, margin_append_content, ← decoded,
    Utf16.encode_decode]

theorem length_margin_le : (margin line).length ≤ units.length := by
  rw [units_eq_margin_append decoded, List.length_append,
    Utf16.length_encode_of_isPlain (isPlain_margin line)]
  exact Nat.le_add_right _ _

/-- Another margin leaves the reading of the line behind it alone. -/
theorem decode_replaceMargin (other : Text) :
    Utf16.decode
        (Utf16.encode (margin other) ++ units.drop (margin line).length) =
      margin other ++ Indent.content line := by
  have width := Utf16.length_encode_of_isPlain (isPlain_margin line)
  have rest :
      units.drop (margin line).length =
        Utf16.encode (Indent.content line) := by
    rw [units_eq_margin_append decoded, ← width, List.drop_left]
  have kept :
      Utf16.decode (Utf16.encode (Indent.content line)) =
        Indent.content line :=
    Utf16.decode_encode_of_append
      (decoded.trans (margin_append_content line).symm)
  rw [rest, Utf16.decode_encode_append (isPlain_margin other), kept]

end Margin

/-- A cursor that goes along with a line stays in the line. -/
theorem column_aligned_le
    (tabWidth : Int)
    (line : Text)
    (column target : Int) :
    (aligned tabWidth line column target).column ≤
      (aligned tabWidth line column target).line.length := by
  have parts := congrArg List.length (margin_append_content line)
  rw [List.length_append] at parts
  rw [aligned]
  split
  · exact Nat.min_le_right _ _
  · simp only [withMargin, columnWithMargin, List.length_append,
      List.length_replicate]
    split <;> omega

/-! ## One line -/

section Line

variable
    {reindenting : Reindenting}
    {style : Style}
    {line column : Nat}

/-- What moving a line makes of it, and of a cursor in it. -/
def placed
    (reindenting : Reindenting)
    (style : Style)
    (line column : Nat) :
    Placed :=
  aligned style.tabWidth (reindenting.lineText line) column
    (columnOf reindenting.memo (textsOf reindenting.draft.content) line
      style).1

theorem alignLine_memo :
    (reindenting.alignLine style line column).1.memo =
      (columnOf reindenting.memo (textsOf reindenting.draft.content) line
        style).2 := by
  rw [alignLine]
  dsimp only
  split <;> rfl

theorem alignLine_column :
    (reindenting.alignLine style line column).2 =
      (reindenting.placed style line column).column := by
  rw [alignLine]
  dsimp only
  split <;> rfl

/-- The edit that moving a line makes, if it makes one. -/
theorem alignLine_draft :
    (reindenting.alignLine style line column).1.draft =
      if (reindenting.placed style line column).line =
          reindenting.lineText line then reindenting.draft
      else
        (reindenting.draft.remove
            (lineStart reindenting.draft.content line)
            (lineStart reindenting.draft.content line +
              (margin (reindenting.lineText line)).length)).insert
          (lineStart reindenting.draft.content line)
          (margin (reindenting.placed style line column).line) := by
  rw [alignLine]
  dsimp only
  split
  · rename_i same
    exact (if_pos same).symm
  · rename_i different
    exact (if_neg different).symm

/-- Changes that were made before stay on record. -/
theorem mem_changes_alignLine
    {change : Change}
    (made : change ∈ reindenting.draft.changes) :
    change ∈ (reindenting.alignLine style line column).1.draft.changes := by
  rw [alignLine_draft]
  split
  · exact made
  · exact Draft.mem_changes_apply (Draft.mem_changes_apply made)

variable
    (present : line < (linesOf reindenting.draft.content).length)

include present

theorem lineStart_le :
    lineStart reindenting.draft.content line ≤
      reindenting.draft.content.length := by
  have bound := lineStart_add_length_le present
  omega

theorem alignLine_isFrom
    {content : List CodeUnit}
    (isFrom : reindenting.draft.IsFrom content) :
    (reindenting.alignLine style line column).1.draft.IsFrom content := by
  rw [alignLine_draft]
  split
  · exact isFrom
  · exact isFrom.replace (lineStart_le present) _ _

omit present in
theorem alignLine_settled
    (settled : Settled reindenting.draft.content) :
    Settled (reindenting.alignLine style line column).1.draft.content := by
  rw [alignLine_draft]
  split
  · exact settled
  · exact Draft.settled_insert (Draft.settled_remove settled _ _) _ _

/-- Nothing changes above the line. -/
theorem alignLine_take :
    (reindenting.alignLine style line column).1.draft.content.take
        (lineStart reindenting.draft.content line) =
      reindenting.draft.content.take
        (lineStart reindenting.draft.content line) := by
  rw [alignLine_draft]
  split
  · rfl
  · have length :=
      List.length_take_of_le (lineStart_le present)
    rw [Draft.content_replace _ (lineStart_le present), List.append_assoc,
      List.take_append_of_le_length (Nat.le_of_eq length.symm),
      List.take_take, Nat.min_self]

/-- On the texts of the lines, moving a line replaces one text. -/
theorem alignLine_texts :
    textsOf (reindenting.alignLine style line column).1.draft.content =
      (textsOf reindenting.draft.content).set line
        (reindenting.placed style line column).line := by
  have decoded :
      Utf16.decode (linesOf reindenting.draft.content)[line] =
        reindenting.lineText line :=
    (getD_textsOf present).symm
  have parts :=
    margin_append_content (reindenting.placed style line column).line
  rw [placed, content_aligned, ← placed] at parts
  rw [alignLine_draft]
  by_cases same :
      (reindenting.placed style line column).line = reindenting.lineText line
  · have listed : line < (textsOf reindenting.draft.content).length := by
      rwa [length_textsOf]
    rw [if_pos same, same, Reindenting.lineText,
      List.getD_eq_getElem _ _ listed, List.set_getElem_self]
  · rw [if_neg same, Draft.content_replace _ (lineStart_le present),
      textsOf_replaceFront present (length_margin_le decoded)
        (separator_notMem_contentOf_margin _),
      contentOf_margin, decode_replaceMargin decoded, parts]

theorem alignLine_length :
    (linesOf
        (reindenting.alignLine style line column).1.draft.content).length =
      (linesOf reindenting.draft.content).length := by
  have lengths :
      (textsOf
          (reindenting.alignLine style line column).1.draft.content).length =
        ((textsOf reindenting.draft.content).set line
          (reindenting.placed style line column).line).length :=
    congrArg List.length (alignLine_texts present)
  rwa [length_textsOf, List.length_set, length_textsOf] at lengths

/-- The cursor that goes along with the line stays in the line. -/
theorem alignLine_column_le :
    ∃ still :
        line <
          (linesOf
            (reindenting.alignLine style line column).1.draft.content).length,
      (reindenting.alignLine style line column).2 ≤
        (linesOf
          (reindenting.alignLine style line
            column).1.draft.content)[line].length := by
  have still :
      line <
        (linesOf
          (reindenting.alignLine style line column).1.draft.content).length :=
    Nat.lt_of_lt_of_eq present (alignLine_length present).symm
  have text :
      Utf16.decode
          (linesOf
            (reindenting.alignLine style line column).1.draft.content)[line] =
        (reindenting.placed style line column).line := by
    have listed : line < (textsOf reindenting.draft.content).length := by
      rwa [length_textsOf]
    rw [← getD_textsOf still, alignLine_texts present,
      List.getD_eq_getElem?_getD, List.getElem?_set_self listed,
      Option.getD_some]
  refine ⟨still, ?_⟩
  rw [alignLine_column]
  calc
    (reindenting.placed style line column).column ≤
        (reindenting.placed style line column).line.length :=
      column_aligned_le style.tabWidth (reindenting.lineText line) column _
    _ ≤ _ := by
      rw [← text]
      exact Utf16.length_decode_le _

/-- So it stays inside the content. -/
theorem alignLine_position_le :
    lineStart (reindenting.alignLine style line column).1.draft.content line +
        (reindenting.alignLine style line column).2 ≤
      (reindenting.alignLine style line column).1.draft.content.length := by
  rcases alignLine_column_le present with ⟨still, within⟩
  exact Nat.le_trans (Nat.add_le_add_left within _)
    (lineStart_add_length_le still)

end Line

end ClauseEditor.Editor.Reindenting
