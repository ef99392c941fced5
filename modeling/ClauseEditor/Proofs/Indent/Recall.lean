import ClauseEditor.Proofs.Indent.Coherence

/-!
# What a stale memo answers

A memo that is coherent with the lines above the line `line` may still hold a
boundary after that line from before an edit.  Asked for the column of the
line below, it takes this boundary for granted, if it has one, and is right
about everything else.  So its answer is the column that the line would have
if the remembered boundary were the one above it.
-/

namespace ClauseEditor.Indent

/-- The column of a line if the boundary above it is a given one. -/
def columnBelow
    (style : Style)
    (lines : List Text)
    (line : Nat)
    (boundary : Boundary) :
    Int :=
  columnFrom style boundary.depth
    ⟨Text.strip (boundary.scan (lines.getD line [])).code,
      codeAboveIn lines line⟩

theorem columnIn_natCast
    {lines : List Text}
    {line : Nat}
    (within : line ≤ lines.length)
    (style : Style) :
    columnIn style lines (line : Int) =
      columnBelow style lines line (boundaryAt lines line) := by
  rw [columnIn, surroundingsIn, clampIndex_natCast within, codeAt_natCast,
    columnBelow]

theorem LinesAlike.columnBelow_eq
    {left right : List Text}
    (alike : LinesAlike left right)
    (style : Style)
    (line : Nat)
    (boundary : Boundary) :
    columnBelow style left line boundary =
      columnBelow style right line boundary := by
  rw [columnBelow, columnBelow, alike.codeAboveIn_eq,
    (alike.alike line).code_eq]

namespace Memo

variable {memo : Memo} {lines : List Text} {line : Nat}

/-- The boundary after a line: the remembered one, or else the right one. -/
def recalled (memo : Memo) (lines : List Text) (line : Nat) : Boundary :=
  memo.boundaries.getD line (boundaryAt lines (line + 1))

theorem recalled_of_size_le (short : memo.size ≤ line) :
    memo.recalled lines line = boundaryAt lines (line + 1) := by
  rw [recalled, List.getD_eq_default _ _ short]

theorem recalled_of_coherent
    {others : List Text}
    (coherent : memo.Coherent others)
    (covered : line < memo.size) :
    memo.recalled lines line = boundaryAt others (line + 1) := by
  rw [recalled, List.getD_eq_getElem?_getD,
    coherent.boundary_eq line covered, Option.getD_some]
  rfl

/-- A memo that remembers a line answers from what it remembers. -/
theorem boundaryBefore_of_covered
    (covered : line < memo.size)
    (present : line + 1 ≤ lines.length) :
    memo.boundaryBefore lines (line + 1 : Nat) =
      (memo.recalled lines line, memo) := by
  have kept : memo.extendTo lines (line + 1) = memo := by
    rw [extendTo, if_pos (Nat.succ_le_of_lt covered)]
  rw [boundaryBefore, clampIndex_natCast present]
  dsimp only
  rw [kept, recalled, List.getD_eq_getElem _ _ covered,
    List.getD_eq_getElem _ _ covered]

end Memo

/-- The column that a memo computes below a line that it may be wrong about. -/
theorem columnOf_fst_recalled
    {memo : Memo}
    {lines : List Text}
    {line : Nat}
    (below : memo.CoherentBelow lines line)
    (present : line + 1 < lines.length)
    (style : Style) :
    (columnOf memo lines (line + 1 : Nat) style).1 =
      columnBelow style lines (line + 1) (memo.recalled lines line) := by
  have clamped :
      Memo.clampIndex lines (line + 1 : Nat) = line + 1 :=
    clampIndex_natCast (Nat.le_of_lt present)
  by_cases covered : line < memo.size
  · have boundary :=
      Memo.boundaryBefore_of_covered covered (Nat.le_of_lt present)
    have depth :
        memo.depthAt lines (line + 1 : Nat) =
          ((memo.recalled lines line).depth, memo) := by
      rw [Memo.depthAt, boundary]
    have code :
        memo.codeOf lines (line + 1 : Nat) =
          (((memo.recalled lines line).scan
            (lines.getD (line + 1) [])).code, memo) := by
      rw [Memo.codeOf, if_neg (by omega), Int.toNat_natCast,
        List.getElem?_eq_getElem present]
      dsimp only
      rw [boundary, List.getD_eq_getElem lines [] present]
    have aboveCode :
        (codeAbove memo lines (line + 1)).1 = codeAboveIn lines (line + 1) :=
      codeAbove_fst below (Nat.le_refl _) (Nat.le_of_lt present)
    simp only [columnOf, placementOf, surroundingsOf, depth, code, clamped,
      aboveCode]
    rfl
  · have short : memo.size ≤ line := Nat.le_of_not_lt covered
    -- All that the memo covers lies above, so it is right about the line too.
    have complete : memo.CoherentBelow lines (line + 1) :=
      fun other remembered _ =>
        below other remembered (Nat.lt_of_lt_of_le remembered short)
    have answer :=
      columnOf_fst complete (Nat.le_of_eq clamped) style
    rw [answer, columnIn_natCast (Nat.le_of_lt present),
      Memo.recalled_of_size_le short]

end ClauseEditor.Indent
