import ClauseEditor.Text.CodePoint

/-!
# Lines of a text

Splitting a text at its line feeds is the splitting of lists at an element,
and joining lines is the intercalation of a line feed.  So the two undo each
other, as long as there is a line and no line holds a line feed.
-/

namespace ClauseEditor

/-- The pieces of a list do not hold the element at which it was split. -/
theorem notMem_of_mem_splitOn
    {α : Type}
    [DecidableEq α]
    {separator : α}
    {list piece : List α}
    (member : piece ∈ list.splitOn separator) :
    separator ∉ piece := by
  induction list generalizing piece with
  | nil =>
      rw [List.splitOn_nil, List.mem_singleton] at member
      simp [member]
  | cons first rest induction =>
      rw [List.splitOn_cons_eq_if_modifyHead] at member
      split at member
      · rcases List.mem_cons.mp member with rfl | below
        · exact List.not_mem_nil
        · exact induction below
      · rename_i different
        cases pieces : rest.splitOn separator with
        | nil => exact absurd pieces (List.splitOn_ne_nil separator rest)
        | cons head tail =>
            rw [pieces] at member induction
            rcases List.mem_cons.mp member with rfl | below
            · have headClean := induction List.mem_cons_self
              simp only [beq_iff_eq] at different
              simp [headClean, Ne.symm different]
            · exact induction (List.mem_cons_of_mem head below)

namespace Text

theorem splitOn_eq (separator : CodePoint) (text : Text) :
    splitOn separator text = List.splitOn separator text := by
  induction text with
  | nil => rfl
  | cons c rest induction =>
      rw [splitOn, List.splitOn_cons_eq_if_modifyHead, induction]
      simp only [beq_iff_eq]
      split
      · rfl
      · cases pieces : List.splitOn separator rest with
        | nil => exact absurd pieces (List.splitOn_ne_nil separator rest)
        | cons piece pieces => rfl

/-- The lines of joined lines, none of which holds a line feed. -/
theorem lines_ofLines
    {lines : List Text}
    (nonempty : lines ≠ [])
    (whole : ∀ line ∈ lines, CodePoint.ofChar '\n' ∉ line) :
    Text.lines (ofLines lines) = lines := by
  rw [Text.lines, splitOn_eq]
  exact List.splitOn_intercalate (CodePoint.ofChar '\n') whole nonempty

theorem lines_ne_nil (text : Text) : text.lines ≠ [] := by
  rw [lines, splitOn_eq]
  exact List.splitOn_ne_nil (CodePoint.ofChar '\n') text

/-- A line holds no line feed. -/
theorem notMem_of_mem_lines
    {text line : Text}
    (member : line ∈ text.lines) :
    CodePoint.ofChar '\n' ∉ line := by
  rw [lines, splitOn_eq] at member
  exact notMem_of_mem_splitOn member

theorem ofLines_lines (text : Text) : ofLines text.lines = text := by
  rw [lines, splitOn_eq]
  exact List.intercalate_splitOn (CodePoint.ofChar '\n')

theorem ofLines_singleton (line : Text) : ofLines [line] = line :=
  List.intercalate_singleton

theorem ofLines_cons
    {lines : List Text}
    (nonempty : lines ≠ [])
    (line : Text) :
    ofLines (line :: lines) = line ++ ofString "\n" ++ ofLines lines :=
  List.intercalate_cons_of_ne_nil nonempty

/-- The characters of a line are characters of the text. -/
theorem mem_ofLines
    {lines : List Text}
    {line : Text}
    (listed : line ∈ lines)
    {c : CodePoint}
    (member : c ∈ line) :
    c ∈ ofLines lines := by
  induction lines with
  | nil => cases listed
  | cons first lines induction =>
      by_cases last : lines = []
      · subst last
        rwa [ofLines_singleton, ← List.mem_singleton.mp listed]
      · rw [ofLines_cons last]
        rcases List.mem_cons.mp listed with rfl | below
        · exact List.mem_append_left _ (List.mem_append_left _ member)
        · exact List.mem_append_right _ (induction below)

end Text

end ClauseEditor
