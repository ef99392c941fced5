import ClauseEditor.Proofs.Indent.LineEnds
import ClauseEditor.Proofs.Text.Stripping

/-!
# Where a cursor goes with its line

A cursor that stands behind the margin when its line is moved keeps what stands
in front of it and what stands behind it, as long as both count columns in code
points.  A document counts them in units.  There a column can lie beyond the
number of code points, and the cursor is then drawn back by the difference: it
comes no nearer to the end of its line than the line has characters that take
two units.

A cursor at column zero goes to the end of the new margin, but stays at column
zero when the line is at its column already.
-/

namespace ClauseEditor.Indent

section Column

variable
    {line : Text}
    (tabWidth target : Int)

theorem length_margin_add_length_content (line : Text) :
    (margin line).length + (content line).length = line.length := by
  rw [← List.length_append, margin_append_content]

theorem length_encode_eq_margin_add (line : Text) :
    (Utf16.encode line).length =
      (margin line).length + (Utf16.encode (content line)).length := by
  have plain := Text.isPlain_of_isBlank (isBlank_margin line)
  rw [← Utf16.length_encode_of_isPlain plain, ← List.length_append,
    ← Utf16.encode_append, margin_append_content]

/--
A cursor behind the margin keeps its distance from the end of the line, in
units, unless fewer units are left there than the line has in excess.
-/
theorem length_sub_column_aligned
    {column : Nat}
    (behind : (margin line).length ≤ column)
    (within : column ≤ (Utf16.encode line).length) :
    (Utf16.encode (aligned tabWidth line column target).line).length -
        (aligned tabWidth line column target).column =
      max ((Utf16.encode line).length - column)
        (line.countP Utf16.takesTwo) := by
  have units := Utf16.length_encode line
  have parts := length_margin_add_length_content line
  have unitParts := length_encode_eq_margin_add line
  have restUnits := Utf16.length_encode (content line)
  rw [aligned, Int.toNat_natCast]
  split
  · dsimp only
    omega
  · have moved := length_encode_eq_margin_add (withMargin target.toNat line)
    rw [margin_withMargin, content_withMargin, List.length_replicate] at moved
    dsimp only
    rw [moved, columnWithMargin]
    split <;> omega

/-- A line that is wide enough stays as it is. -/
theorem line_aligned_of_marginWidth_eq
    {column : Int}
    (same :
      marginWidth tabWidth line =
        marginWidth tabWidth (aligned tabWidth line column target).line) :
    (aligned tabWidth line column target).line = line := by
  rw [marginWidth_aligned] at same
  exact line_aligned_of_width same column

/-- A cursor at the start of the line goes behind a margin that is new. -/
theorem column_aligned_zero (line : Text) :
    (aligned tabWidth line 0 target).column =
      if marginWidth tabWidth line =
          marginWidth tabWidth (aligned tabWidth line 0 target).line then 0
      else (margin (aligned tabWidth line 0 target).line).length := by
  rw [marginWidth_aligned, aligned]
  split
  · exact Nat.zero_min _
  · rw [margin_withMargin, List.length_replicate, Int.toNat_zero,
      Nat.zero_min, columnWithMargin, if_pos (Nat.zero_le _)]

theorem strip_content (line : Text) :
    Text.strip (content line) = Text.strip line := by
  rw [← Text.strip_blank_append (isBlank_margin line), margin_append_content]

/-- A line that is moved differs in blanks at its start only. -/
theorem strip_aligned (line : Text) (column : Int) :
    Text.strip (aligned tabWidth line column target).line =
      Text.strip line := by
  rw [← strip_content, content_aligned, strip_content]

theorem getLast?_content
    (visible : Text.isBlank line = false) :
    (content line).getLast? = line.getLast? := by
  have shown := content_ne_nil visible
  rw [← margin_append_content line, List.getLast?_append,
    margin_append_content, List.getLast?_eq_some_getLast shown, Option.some_or]

theorem getLast?_aligned
    (visible : Text.isBlank line = false)
    (column : Int) :
    (aligned tabWidth line column target).line.getLast? = line.getLast? := by
  rw [← getLast?_content (by rwa [isBlank_aligned]), content_aligned,
    getLast?_content visible]

/-- What stands in front of the cursor is moved as a line of its own would be. -/
theorem aligned_append
    {front : Text}
    (visible : Text.isBlank front = false)
    (rest : Text) :
    aligned tabWidth (front ++ rest) front.length target =
      ⟨(aligned tabWidth front 0 target).line ++ rest,
        (aligned tabWidth front 0 target).line.length⟩ := by
  have parts := length_margin_add_length_content front
  have shown := List.length_pos_iff.mpr (content_ne_nil visible)
  have inside : min front.length (front ++ rest).length = front.length :=
    Nat.min_eq_left (by rw [List.length_append]; exact Nat.le_add_right _ _)
  rw [aligned, aligned, marginWidth_append visible, Int.toNat_natCast, inside]
  split
  · rfl
  · rw [withMargin, content_append visible, withMargin, columnWithMargin,
      margin_append visible, if_neg (by omega), List.append_assoc,
      List.length_append, List.length_replicate]
    congr 1
    omega

end Column

end ClauseEditor.Indent
