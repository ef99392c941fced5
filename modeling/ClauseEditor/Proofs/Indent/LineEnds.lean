import ClauseEditor.Proofs.Indent.Layout

/-!
# Line ends of two characters

A text whose lines end with a carriage return and a line feed has a carriage
return as the last character of each of its lines but the last.  A carriage
return is a blank character, so the line is lexically alike to what it is
without it.

Hence every line belongs at the same column with and without the carriage
return, and tidying keeps it where it is.  Reindenting a text and then ending
its lines with two characters is the same as doing it the other way round.
-/

namespace ClauseEditor

namespace Text

/-! ## Carriage returns at the ends of lines -/

/-- The text with a carriage return in front of each line feed. -/
def withReturns (text : Text) : Text :=
  text.flatMap fun c : CodePoint => if c = '\n' then ofString "\r\n" else [c]

theorem withReturns_append (left right : Text) :
    withReturns (left ++ right) = withReturns left ++ withReturns right :=
  List.flatMap_append

theorem withReturns_of_notMem
    {line : Text}
    (whole : CodePoint.ofChar '\n' ∉ line) :
    withReturns line = line := by
  induction line with
  | nil => rfl
  | cons c rest induction =>
      rw [List.mem_cons, not_or] at whole
      have kept := induction whole.2
      rw [withReturns] at kept
      rw [withReturns, List.flatMap_cons, if_neg (Ne.symm whole.1), kept,
        List.singleton_append]

/-- The lines with a carriage return at the end of each but the last. -/
def returned (lines : List Text) : List Text :=
  lines.mapIdx fun number line =>
    if number + 1 < lines.length then line ++ ofString "\r" else line

theorem returned_ne_nil
    {lines : List Text}
    (nonempty : lines ≠ []) :
    returned lines ≠ [] := by
  rwa [returned, ne_eq, List.mapIdx_eq_nil_iff]

@[simp]
theorem length_returned (lines : List Text) :
    (returned lines).length = lines.length := by
  simp [returned]

theorem getElem?_returned (lines : List Text) (number : Nat) :
    (returned lines)[number]? =
      (lines[number]?).map fun line =>
        if number + 1 < lines.length then line ++ ofString "\r" else line :=
  List.getElem?_mapIdx

theorem returned_cons
    {lines : List Text}
    (nonempty : lines ≠ [])
    (line : Text) :
    returned (line :: lines) = (line ++ ofString "\r") :: returned lines := by
  have below : 0 < lines.length := List.length_pos_iff.mpr nonempty
  simp [returned, List.mapIdx_cons, below]

/-- Ending the lines of a text with two characters. -/
theorem withReturns_ofLines
    {lines : List Text}
    (whole : ∀ line ∈ lines, CodePoint.ofChar '\n' ∉ line) :
    withReturns (ofLines lines) = ofLines (returned lines) := by
  induction lines with
  | nil => rfl
  | cons line lines induction =>
      have lineWhole := withReturns_of_notMem (whole line List.mem_cons_self)
      by_cases last : lines = []
      · subst last
        rw [ofLines_singleton, lineWhole]
        exact (ofLines_singleton line).symm
      · have below := induction fun other member =>
          whole other (List.mem_cons_of_mem line member)
        have feed :
            withReturns (ofString "\n") = ofString "\r" ++ ofString "\n" := rfl
        rw [ofLines_cons last, withReturns_append, withReturns_append,
          lineWhole, feed, below, returned_cons last,
          ofLines_cons (returned_ne_nil last)]
        simp only [List.append_assoc]

theorem lines_withReturns (text : Text) :
    text.withReturns.lines = returned text.lines := by
  have whole : ∀ line ∈ text.lines, CodePoint.ofChar '\n' ∉ line :=
    fun _ => notMem_of_mem_lines
  conv =>
    lhs
    rw [← ofLines_lines text, withReturns_ofLines whole]
  apply lines_ofLines (returned_ne_nil (lines_ne_nil text))
  intro line listed
  rcases List.mem_mapIdx.mp listed with ⟨number, present, rfl⟩
  have lineWhole := whole _ (List.getElem_mem present)
  split
  · rw [List.mem_append, not_or]
    exact ⟨lineWhole, by decide⟩
  · exact lineWhole

end Text

namespace Indent

/-! ## Tidying a line that ends with a carriage return -/

section Line

variable {line : Text}

theorem content_ne_nil
    (visible : Text.isBlank line = false) :
    content line ≠ [] := by
  intro nothing
  rw [← isBlank_content, nothing] at visible
  cases visible

theorem content_append (visible : Text.isBlank line = false) (rest : Text) :
    content (line ++ rest) = content line ++ rest := by
  have shown : ¬ (line.dropWhile isMargin).isEmpty = true :=
    fun empty => content_ne_nil visible (List.isEmpty_iff.mp empty)
  rw [content, List.dropWhile_append, if_neg shown, content]

theorem margin_append (visible : Text.isBlank line = false) (rest : Text) :
    margin (line ++ rest) = margin line := by
  have parts := margin_append_content (line ++ rest)
  rw [content_append visible, ← List.append_assoc] at parts
  have front := List.append_cancel_right parts
  conv at front =>
    rhs
    rw [← margin_append_content line]
  exact List.append_cancel_right front

theorem marginWidth_append
    (visible : Text.isBlank line = false)
    (tabWidth : Int)
    (rest : Text) :
    marginWidth tabWidth (line ++ rest) = marginWidth tabWidth line := by
  rw [marginWidth, margin_append visible, marginWidth]

theorem line_aligned_append
    (visible : Text.isBlank line = false)
    (rest : Text)
    (tabWidth target : Int) :
    (aligned tabWidth (line ++ rest) 0 target).line =
      (aligned tabWidth line 0 target).line ++ rest := by
  rw [aligned, aligned, marginWidth_append visible]
  split
  · rfl
  · rw [withMargin, content_append visible, withMargin, List.append_assoc]

/-- Tidying keeps a carriage return at the end of a line. -/
theorem tidied_append_return
    (plain : CodePoint.ofChar '\r' ∉ line)
    (style : Style)
    (column : Int) :
    tidied style column (line ++ Text.ofString "\r") =
      tidied style column line ++ Text.ofString "\r" := by
  have returnBlank : Text.isBlank (Text.ofString "\r") = true := by decide
  rw [tidied, tidied, Text.isBlank_append, returnBlank, Bool.and_true]
  split
  · have last : line.getLast? ≠ some (CodePoint.ofChar '\r') :=
      fun last => plain (List.mem_of_getLast? last)
    have returns :
        (line ++ Text.ofString "\r").getLast? =
          some (CodePoint.ofChar '\r') :=
      List.getLast?_concat
    rw [emptied, emptied, if_neg last, if_pos returns]
    rfl
  · rename_i visible
    exact line_aligned_append (Bool.eq_false_iff.mpr visible) _ _ _

end Line

/-! ## Tidying lines that end with carriage returns -/

theorem linesAlike_returned (lines : List Text) :
    LinesAlike (Text.returned lines) lines := by
  constructor
  · exact Text.length_returned lines
  · intro number
    rw [List.getD_eq_getElem?_getD, List.getD_eq_getElem?_getD,
      Text.getElem?_returned]
    cases lines[number]? with
    | none => exact .refl []
    | some line =>
        rw [Option.map_some, Option.getD_some, Option.getD_some]
        split
        · exact .append_right_of_isBlank (by decide) line
        · exact .refl line

theorem tidiedLines_returned
    {lines : List Text}
    (plain : ∀ line ∈ lines, CodePoint.ofChar '\r' ∉ line)
    (style : Style) :
    tidiedLines style (Text.returned lines) =
      Text.returned (tidiedLines style lines) := by
  have columns (number : Nat) :
      columnIn style (Text.returned lines) number =
        columnIn style lines number :=
    (linesAlike_returned lines).columnIn_eq style number
  apply List.ext_getElem?
  intro number
  rw [Text.getElem?_returned, length_tidiedLines]
  simp only [tidiedLines, columns, List.getElem?_mapIdx,
    Text.getElem?_returned]
  cases found : lines[number]? with
  | none => rfl
  | some line =>
      simp only [Option.map_some]
      split
      · rw [tidied_append_return (plain line (List.mem_of_getElem? found))]
      · rfl

/--
Reindenting a text whose lines end with two characters gives the reindented
text, with its lines ended in this way.
-/
theorem reindentText_withReturns
    {style : Style}
    (positive : 1 ≤ style.tabWidth)
    {text : Text}
    (plain : CodePoint.ofChar '\r' ∉ text) :
    ∃ tidy : Text,
      reindentText style text = .ok tidy ∧
        reindentText style text.withReturns = .ok tidy.withReturns := by
  have linesPlain :
      ∀ line ∈ text.lines, CodePoint.ofChar '\r' ∉ line := by
    intro line listed member
    have inside := Text.mem_ofLines listed member
    rw [Text.ofLines_lines] at inside
    exact plain inside
  have whole :
      ∀ line ∈ text.lines, CodePoint.ofChar '\n' ∉ line :=
    fun _ => Text.notMem_of_mem_lines
  refine ⟨_, reindentText_eq positive text, ?_⟩
  rw [reindentText_eq positive, Text.lines_withReturns,
    tidiedLines_returned linesPlain,
    Text.withReturns_ofLines fun _ =>
      notMem_of_mem_tidiedLines (by decide) whole]

/--
The carriage returns stand behind a comment, in a blank line and after a
backslash in a string that is not closed.
-/
theorem reindentText_withReturns_sample :
    1 ≤ Style.standard.tabWidth ∧
      CodePoint.ofChar '\r' ∉ Text.ofString "a( // b\n \n\"c\\\n)" ∧
      ∃ tidy : Text,
        tidy = Text.ofString "a( // b\n\n  \"c\\\n)" ∧
          reindentText .standard
              (Text.ofString "a( // b\n \n\"c\\\n)") = .ok tidy ∧
          reindentText .standard
              (Text.ofString "a( // b\n \n\"c\\\n)").withReturns =
            .ok tidy.withReturns := by
  have positive : 1 ≤ Style.standard.tabWidth := by decide
  have plain :
      CodePoint.ofChar '\r' ∉ Text.ofString "a( // b\n \n\"c\\\n)" := by
    decide
  obtain ⟨tidy, reached, returned⟩ := reindentText_withReturns positive plain
  refine ⟨positive, plain, tidy, ?_, reached, returned⟩
  rw [reindentText_eq positive] at reached
  rw [← Except.ok.inj reached]
  decide +kernel

end Indent

end ClauseEditor
