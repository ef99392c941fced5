import ClauseEditor.Proofs.Commenting
import ClauseEditor.Proofs.Indent.Extent

/-!
# Lines that indentation passes over

Lines make a gap at a boundary if none of them shows any code when they are
scanned one after another from there, and the boundary after them is the one
before them.  Blank lines, line comments and whole block comments over any
number of lines make gaps.

A gap between two parts of a document shifts the numbers of the lines below it
and changes nothing else.  The boundaries in front of those lines are the same,
and looking for code above them passes over the gap.  So each of them has the
outlook that it has without the gap, and belongs at the same column.

Lines that have been commented out together are all comments, so they make a
gap wherever no block comment is open: whatever stood in them, the lines below
are placed as if they were not there.
-/

namespace ClauseEditor.Indent

open ClauseEditor.Scallop
open ClauseEditor.Commenting

/-! ## Gaps -/

/-- The scans of lines one after another, when the first starts at a boundary. -/
def Boundary.scans (boundary : Boundary) : List Text → List Scanned
  | [] => []
  | line :: lines =>
    boundary.scan line :: (boundary.after line).scans lines

/-- The lines show no code from a boundary on, and lead back to it. -/
structure IsGap (boundary : Boundary) (lines : List Text) : Prop where
  isBlank_code : ∀ scanned ∈ boundary.scans lines,
    Text.isBlank scanned.code = true
  foldl_after : lines.foldl Boundary.after boundary = boundary

theorem mem_scans
    (boundary : Boundary)
    {lines : List Text}
    {line : Nat}
    (present : line < lines.length) :
    ((lines.take line).foldl Boundary.after boundary).scan
        (lines.getD line []) ∈
      boundary.scans lines := by
  induction lines generalizing boundary line with
  | nil => exact absurd present (Nat.not_lt_zero line)
  | cons first lines induction =>
      cases line with
      | zero => exact List.mem_cons_self
      | succ line =>
          exact List.mem_cons_of_mem _
            (induction (boundary.after first)
              (Nat.lt_of_succ_lt_succ present))

/-! ## Documents of two parts -/

section Parts

variable (above below : List Text) (line : Nat)

theorem boundaryAt_append :
    boundaryAt (above ++ below) (above.length + line) =
      (below.take line).foldl Boundary.after
        (above.foldl Boundary.after .start) := by
  rw [boundaryAt, List.take_length_add_append, List.foldl_append]

theorem codeAt_append :
    codeAt (above ++ below) (above.length + line : Nat) =
      (((below.take line).foldl Boundary.after
        (above.foldl Boundary.after .start)).scan
          (below.getD line [])).code := by
  have same :
      (above ++ below).getD (above.length + line) [] = below.getD line [] := by
    rw [List.getD_append_right _ _ _ _ (Nat.le_add_right _ _),
      Nat.add_sub_cancel_left]
  rw [codeAt_natCast, boundaryAt_append, same]

end Parts

/-! ## Documents with a gap -/

section Gap

variable
    {above gap : List Text}
    (isGap : IsGap (above.foldl Boundary.after .start) gap)
    (below : List Text)

include isGap

theorem strip_codeAt_gap
    {line : Nat}
    (inside : line < gap.length) :
    Text.strip (codeAt (above ++ gap ++ below) (above.length + line : Nat)) =
      [] := by
  have whole := mem_scans (above.foldl Boundary.after .start) inside
  rw [List.append_assoc, codeAt_append,
    List.take_append_of_le_length (Nat.le_of_lt inside),
    List.getD_append _ _ _ _ inside]
  exact Text.strip_eq_nil_iff.mpr (isGap.isBlank_code _ whole)

theorem codeAt_below_gap (line : Nat) :
    codeAt (above ++ gap ++ below)
        (above.length + gap.length + line : Nat) =
      codeAt (above ++ below) (above.length + line : Nat) := by
  rw [← List.length_append, codeAt_append, codeAt_append, List.foldl_append,
    isGap.foldl_after]

/-- Below a gap the nearest code above is the one without the gap. -/
theorem codeAboveIn_below_gap (line : Nat) :
    codeAboveIn (above ++ gap ++ below) (above.length + gap.length + line) =
      codeAboveIn (above ++ below) (above.length + line) := by
  induction line with
  | zero =>
      have same :
          (above ++ (gap ++ below)).take above.length =
            (above ++ below).take above.length := by
        rw [List.take_left, List.take_left]
      -- The search leaves the gap at its top and goes on in the lines above.
      rw [Nat.add_zero, Nat.add_zero,
        codeAboveIn_add_of_blank fun _ => strip_codeAt_gap isGap below,
        List.append_assoc]
      exact codeAboveIn_congr same (Nat.le_refl _)
  | succ line induction =>
      have own := codeAt_below_gap isGap below line
      rw [← Nat.add_assoc, ← Nat.add_assoc, codeAboveIn, codeAboveIn, own,
        induction]

/-- A gap does not change the outlook from the lines below it. -/
theorem outlookAt_below_gap (line : Nat) :
    outlookAt (above ++ gap ++ below)
        (above.length + gap.length + line : Nat) =
      outlookAt (above ++ below) (above.length + line : Nat) := by
  apply Outlook.ext
  · show boundaryAt (above ++ gap ++ below)
        (above.length + gap.length + line) =
      boundaryAt (above ++ below) (above.length + line)
    rw [← List.length_append, boundaryAt_append, boundaryAt_append,
      List.foldl_append, isGap.foldl_after]
  · exact codeAt_below_gap isGap below line
  · exact codeAboveIn_below_gap isGap below line

/-- The lines below a gap are placed as they are without it. -/
theorem columnOf_below_gap (line : Nat) (style : Style) :
    (placementOf .empty (above ++ gap ++ below)
        (above.length + gap.length + line : Nat)).1 =
      (placementOf .empty (above ++ below) (above.length + line : Nat)).1 ∧
    (columnOf .empty (above ++ gap ++ below)
        (above.length + gap.length + line : Nat) style).1 =
      (columnOf .empty (above ++ below) (above.length + line : Nat)
        style).1 := by
  have same := outlookAt_below_gap isGap below line
  constructor
  · rw [placementOf_empty_eq, placementOf_empty_eq, same]
  · rw [columnOf_empty_eq, columnOf_empty_eq, same]

end Gap

/-- A blank line, a line comment and a block comment over two lines. -/
theorem columnOf_below_gap_sample :
    IsGap ((["p(a,"].map Text.ofString).foldl Boundary.after .start)
        (["\t", "// (", "/* and", "\"( */ "].map Text.ofString) ∧
      (placementOf .empty
          (["p(a,", "\t", "// (", "/* and", "\"( */ ", "b"].map
            Text.ofString) 5).1 = .afterContinuation ∧
      (columnOf .empty
          (["p(a,", "\t", "// (", "/* and", "\"( */ ", "b"].map
            Text.ofString) 5 .standard).1 = 6 := by
  have isGap :
      IsGap ((["p(a,"].map Text.ofString).foldl Boundary.after .start)
        (["\t", "// (", "/* and", "\"( */ "].map Text.ofString) :=
    ⟨by decide +kernel, by decide +kernel⟩
  obtain ⟨placement, column⟩ :=
    columnOf_below_gap isGap (["b"].map Text.ofString) 0 .standard
  refine ⟨isGap, placement.trans ?_, column.trans ?_⟩
  · decide +kernel
  · decide +kernel

/-! ## Lines that are comments -/

section Comments

variable {boundary : Boundary} {lines : List Text}

/-- Lines that each lead back to a boundary without showing any code. -/
theorem isGap_of_each
    (each : ∀ line ∈ lines,
      boundary.after line = boundary ∧
        Text.isBlank (boundary.scan line).code = true) :
    IsGap boundary lines := by
  induction lines with
  | nil => exact ⟨fun _ listed => absurd listed List.not_mem_nil, rfl⟩
  | cons line lines induction =>
      have first := each line List.mem_cons_self
      have others := induction fun other listed =>
        each other (List.mem_cons_of_mem line listed)
      constructor
      · intro scanned listed
        rw [Boundary.scans, first.1] at listed
        rcases List.mem_cons.mp listed with rfl | below
        · exact first.2
        · exact others.isBlank_code scanned below
      · rw [List.foldl_cons, first.1]
        exact others.foldl_after

/-- A line that is like an empty one where it stands. -/
theorem scan_of_alike_nil
    {line rest : Text}
    (alike : Alike line rest)
    (nothing : boundary.scan rest = ⟨boundary, []⟩) :
    boundary.after line = boundary ∧
      Text.isBlank (boundary.scan line).code = true := by
  constructor
  · rw [alike.after_eq, Boundary.after, nothing]
  · apply Text.strip_eq_nil_iff.mp
    rw [alike.code_eq, nothing]
    rfl

theorem scan_of_isBlank
    {line : Text}
    (isBlank : Text.isBlank line = true) :
    boundary.after line = boundary ∧
      Text.isBlank (boundary.scan line).code = true :=
  scan_of_alike_nil (.nil_of_isBlank isBlank) (scan_nil boundary)

variable (outside : boundary.inComment = false)

include outside

theorem scan_lineComment (rest : Text) :
    boundary.scan (lineComment ++ rest) = ⟨boundary, []⟩ := by
  rcases boundary with ⟨depth, inComment⟩
  cases outside
  rfl

theorem scan_of_isCommented
    {line : Text}
    (commented : isCommented lineComment line = true) :
    boundary.after line = boundary ∧
      Text.isBlank (boundary.scan line).code = true := by
  rw [isCommented, List.isPrefixOf_iff_prefix] at commented
  rcases commented with ⟨rest, starts⟩
  have alike : Alike line (lineComment ++ rest) := by
    have leading :
        Text.isBlank (line.takeWhile CodePoint.isBlank) = true :=
      List.all_takeWhile
    have split := Alike.append_of_isBlank leading (Text.stripLeft line)
    rwa [blanks_append_stripLeft, ← starts] at split
  exact scan_of_alike_nil alike (scan_lineComment outside rest)

/-- Comments and blank lines make a gap where no block comment is open. -/
theorem isGap_of_allCommented
    (all : AllCommented lineComment lines) :
    IsGap boundary lines := by
  apply isGap_of_each
  intro line listed
  cases blank : Text.isBlank line with
  | true => exact scan_of_isBlank blank
  | false => exact scan_of_isCommented outside (all line listed blank)

end Comments

/--
Lines that have been commented out together are passed over: whatever they
hold, the lines below belong at the columns that they have without them.
-/
theorem columnOf_below_commented
    {above lines : List Text}
    (outside : (above.foldl Boundary.after .start).inComment = false)
    (remaining : ∃ line ∈ lines,
      Text.isBlank line = false ∧ isCommented lineComment line = false)
    (below : List Text)
    (line : Nat)
    (style : Style) :
    (columnOf .empty (above ++ toggle lineComment lines ++ below)
        (above.length + lines.length + line : Nat) style).1 =
      (columnOf .empty (above ++ below) (above.length + line : Nat)
        style).1 := by
  have visible : lineComment.StartsVisibly := ⟨slash, rfl, by decide⟩
  have all : AllCommented lineComment (toggle lineComment lines) :=
    allCommented_toggle visible (not_allCommented_iff.mpr remaining)
  have isGap := isGap_of_allCommented outside all
  have same := outlookAt_below_gap isGap below line
  rw [length_toggle] at same
  rw [columnOf_empty_eq, columnOf_empty_eq, same]

/-- A bracket, a quote and the start of a block comment. -/
theorem columnOf_below_commented_sample :
    ((["p(a,"].map Text.ofString).foldl Boundary.after .start).inComment =
        false ∧
      toggle lineComment (["  (\" /*", "// b :-"].map Text.ofString) =
        ["//   (\" /*", "// // b :-"].map Text.ofString ∧
      (columnOf .empty
          (["p(a,", "  (\" /*", "// b :-", "c"].map Text.ofString) 3
          .standard).1 = 4 ∧
      (columnOf .empty
          (["p(a,", "//   (\" /*", "// // b :-", "c"].map Text.ofString) 3
          .standard).1 = 6 := by
  have outside :
      ((["p(a,"].map Text.ofString).foldl Boundary.after .start).inComment =
        false := by
    decide +kernel
  have remaining :
      ∃ line ∈ ["  (\" /*", "// b :-"].map Text.ofString,
        Text.isBlank line = false ∧
          isCommented lineComment line = false :=
    ⟨Text.ofString "  (\" /*", List.mem_cons_self, by decide, by decide⟩
  have commented :
      toggle lineComment (["  (\" /*", "// b :-"].map Text.ofString) =
        ["//   (\" /*", "// // b :-"].map Text.ofString := by
    decide +kernel
  have same :=
    columnOf_below_commented outside remaining (["c"].map Text.ofString) 0
      .standard
  rw [commented] at same
  refine ⟨outside, commented, by decide +kernel, same.trans ?_⟩
  decide +kernel

end ClauseEditor.Indent
