import ClauseEditor.Proofs.Indent.CursorColumn
import ClauseEditor.Proofs.Indent.Gaps

/-!
# Moving a line to a column

A line that is moved keeps its content and gets a margin as wide as the column,
and a cursor goes along.  Behind the margin the cursor keeps the text behind
it; elsewhere it goes to the end of the margin, if that changes.  Wherever it
was asked for, it ends inside the line.

A line that has been moved is at its column.  Moving it there again leaves it
alone, and the cursor too.

The scan of a line does not tell whether the line has been moved: wherever it
starts, it leads to the same boundary, and the code texts differ in the blanks
at their start.  A blank line leads nowhere and shows no code.
-/

namespace ClauseEditor.Indent

section Moving

variable
    {line : Text}
    (tabWidth column target : Int)

/-- What stands behind a position in the content of a line. -/
theorem drop_of_length_margin_le
    {position : Nat}
    (behind : (margin line).length ≤ position) :
    line.drop position =
      (content line).drop (position - (margin line).length) := by
  conv =>
    lhs
    rw [← margin_append_content line]
  rw [List.drop_append, List.drop_eq_nil_of_le behind, List.nil_append]

theorem column_aligned_le (line : Text) :
    (aligned tabWidth line column target).column ≤
      (aligned tabWidth line column target).line.length := by
  have parts := length_margin_add_length_content line
  rw [aligned]
  split
  · exact Nat.min_le_right _ _
  · have width : (withMargin target.toNat line).length =
        target.toNat + (content line).length := by
      rw [withMargin, List.length_append, List.length_replicate]
    dsimp only
    rw [width, columnWithMargin]
    split <;> omega

/-- A cursor behind the margin keeps the text that stands behind it. -/
theorem drop_column_aligned
    (behind : (margin line).length < min column.toNat line.length) :
    (aligned tabWidth line column target).line.drop
        (aligned tabWidth line column target).column =
      line.drop (min column.toNat line.length) := by
  rw [aligned]
  split
  · rfl
  · dsimp only
    rw [columnWithMargin, if_neg (Nat.not_le.mpr behind),
      drop_of_length_margin_le (Nat.le_of_lt behind),
      drop_of_length_margin_le, margin_withMargin, content_withMargin,
      List.length_replicate, Nat.add_sub_cancel]
    rw [margin_withMargin, List.length_replicate]
    exact Nat.le_add_left _ _

/-- A line and a cursor that have been moved stay where they are. -/
theorem aligned_aligned (line : Text) :
    aligned tabWidth (aligned tabWidth line column target).line
        (aligned tabWidth line column target).column target =
      aligned tabWidth line column target := by
  have inside := column_aligned_le tabWidth column target line
  conv =>
    lhs
    rw [aligned, if_pos (marginWidth_aligned tabWidth line column target),
      Int.toNat_natCast, Nat.min_eq_left inside]

end Moving

theorem marginWidth?_eq
    {tabWidth : Int}
    (positive : 1 ≤ tabWidth)
    (line : Text) :
    marginWidth? tabWidth line = .ok (marginWidth tabWidth line) := by
  have notZero : tabWidth ≠ 0 := by omega
  rw [marginWidth?, if_neg fun zero => notZero zero.1]

/--
What moving does to a line and to a cursor in it, for every column and every
target, negative ones and columns behind the line included.
-/
theorem exists_moveTo_eq
    {style : Style}
    (positive : 1 ≤ style.tabWidth)
    (line : Text)
    (column target : Int) :
    let inside := min column.toNat line.length
    ∃ placed,
      moveTo style line column target = .ok placed ∧
        content placed.line = content line ∧
        marginWidth? style.tabWidth placed.line = .ok (max 0 target) ∧
        placed.column ≤ placed.line.length ∧
        ((margin line).length < inside →
          placed.line.drop placed.column = line.drop inside) ∧
        moveTo style placed.line placed.column target = .ok placed := by
  intro inside
  refine ⟨aligned style.tabWidth line column target,
    moveTo_eq positive line column target, ?_, ?_, ?_, ?_, ?_⟩
  · exact content_aligned style.tabWidth line column target
  · rw [marginWidth?_eq positive, marginWidth_aligned]
  · exact column_aligned_le style.tabWidth column target line
  · exact drop_column_aligned style.tabWidth column target
  · rw [moveTo_eq positive, aligned_aligned]

/-- A margin of a tab and a space, and a cursor between two characters. -/
theorem exists_moveTo_eq_sample :
    let line := Text.ofString "\t ab"
    (1 : Int) ≤ Style.standard.tabWidth ∧
      ∃ placed,
        moveTo Style.standard line 3 4 = .ok placed ∧
          placed.line = Text.ofString "    ab" ∧
          placed.line.drop placed.column = Text.ofString "b" ∧
          moveTo Style.standard placed.line placed.column 4 = .ok placed := by
  intro line
  refine ⟨by decide, ?_⟩
  obtain ⟨placed, moved, same, width, inside, behind, again⟩ :=
    @exists_moveTo_eq Style.standard (by decide) line 3 4
  refine ⟨placed, moved, ?_, behind (by decide), again⟩
  cases moved
  decide

/--
Moving a line changes neither the boundary after it nor its stripped code text,
whatever boundary it starts at; and a blank line leaves that boundary as it is
and has no code.
-/
theorem scan_moveTo
    {style : Style}
    (positive : 1 ≤ style.tabWidth)
    (boundary : Boundary) :
    (∀ (line : Text) (column target : Int),
      ∃ placed,
        moveTo style line column target = .ok placed ∧
          boundary.after placed.line = boundary.after line ∧
          Text.strip (boundary.scan placed.line).code =
            Text.strip (boundary.scan line).code) ∧
      ∀ line : Text, Text.isBlank line = true →
        boundary.after line = boundary ∧
          Text.strip (boundary.scan line).code = [] := by
  constructor
  · intro line column target
    have alike := Alike.aligned style.tabWidth line column target
    exact ⟨aligned style.tabWidth line column target,
      moveTo_eq positive line column target,
      (alike.after_eq boundary).symm, (alike.code_eq boundary).symm⟩
  · intro line isBlank
    obtain ⟨after, codeBlank⟩ := scan_of_isBlank isBlank
    exact ⟨after, Text.strip_eq_nil_iff.mpr codeBlank⟩

/--
A line that starts in a block comment, with a tab, an ideographic space and
the end of the comment at its start, and a line of those two blanks.
-/
theorem scan_moveTo_sample :
    let boundary : Boundary := ⟨1, true⟩
    let line := Text.ofString "\t\u3000*/ \")\" \x7b//"
    (1 : Int) ≤ Style.standard.tabWidth ∧
      (∃ placed,
        moveTo Style.standard line 3 4 = .ok placed ∧
          placed.line = Text.ofString "    \u3000*/ \")\" \x7b//" ∧
          boundary.after placed.line = ⟨2, false⟩ ∧
          Text.strip (boundary.scan placed.line).code =
            Text.ofString "\" \" \x7b") ∧
      Text.isBlank (Text.ofString "\t\u3000") = true ∧
      boundary.after (Text.ofString "\t\u3000") = boundary := by
  intro boundary line
  obtain ⟨moved, blank⟩ := @scan_moveTo Style.standard (by decide) boundary
  obtain ⟨placed, placed_eq, after, code⟩ := moved line 3 4
  have isBlank : Text.isBlank (Text.ofString "\t\u3000") = true := by
    decide +kernel
  refine ⟨by decide, ⟨placed, placed_eq, ?_, after.trans ?_, code.trans ?_⟩,
    isBlank, (blank _ isBlank).1⟩
  · cases placed_eq
    decide +kernel
  · decide +kernel
  · decide +kernel

end ClauseEditor.Indent
