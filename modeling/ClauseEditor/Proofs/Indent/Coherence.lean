import ClauseEditor.Proofs.Indent.Lexis

/-!
# What a memo has to remember

A memo is coherent with a list of lines if it covers no more lines than there
are and each of its boundaries is the one after the lines above.  A coherent
memo answers every question as an empty one does, and what it answers is
stated here without a memo: `boundaryAt`, `codeAt`, `codeAboveIn` and
`columnIn`.

Inside an edit block a memo can be coherent with the first lines only.
`CoherentBelow` names the number of those lines.  Extending a memo never
spoils them, and a question about a line that is not below them still gets
the right answer.
-/

namespace ClauseEditor.Indent

/-! ## Answers without a memo -/

/-- The code text of a line; a line that is not there has none. -/
def codeAt (lines : List Text) (index : Int) : Text :=
  if index < 0 then []
  else
    ((boundaryAt lines index.toNat).scan (lines.getD index.toNat [])).code

/-- The stripped code of the nearest of the first lines that has any. -/
def codeAboveIn (lines : List Text) : Nat → Text
  | 0 => []
  | line + 1 =>
    if Text.strip (codeAt lines line) = [] then codeAboveIn lines line
    else Text.strip (codeAt lines line)

/-- What decides the placement of a line. -/
def surroundingsIn (lines : List Text) (index : Int) : Surroundings where
  own := Text.strip (codeAt lines index)
  above := codeAboveIn lines (Memo.clampIndex lines index)

/-- The column of a line of some depth between its surroundings. -/
def columnFrom
    (style : Style)
    (depth : Int)
    (surroundings : Surroundings) :
    Int :=
  max 0
    (depth * style.unit + (Placement.of surroundings).shift * style.unit)

/-- The column at which a line belongs. -/
def columnIn (style : Style) (lines : List Text) (index : Int) : Int :=
  columnFrom style (boundaryAt lines (Memo.clampIndex lines index)).depth
    (surroundingsIn lines index)

theorem columnFrom_nonneg
    (style : Style)
    (depth : Int)
    (surroundings : Surroundings) :
    0 ≤ columnFrom style depth surroundings :=
  Int.le_max_left _ _

@[simp]
theorem codeAt_natCast (lines : List Text) (line : Nat) :
    codeAt lines (line : Int) =
      ((boundaryAt lines line).scan (lines.getD line [])).code := by
  rw [codeAt, if_neg (by omega), Int.toNat_natCast]

theorem clampIndex_natCast
    {lines : List Text}
    {line : Nat}
    (within : line ≤ lines.length) :
    Memo.clampIndex lines (line : Int) = line := by
  simp [Memo.clampIndex, within]

/-- There is no code past the end. -/
theorem codeAt_of_length_le
    {lines : List Text}
    {index : Int}
    (beyond : lines.length ≤ index) :
    codeAt lines index = [] := by
  have absent : lines.getD index.toNat [] = [] :=
    List.getD_eq_default lines [] (by omega)
  rw [codeAt, absent, scan_nil, ite_self]

/-- Lines past the end leave the boundary at the end. -/
theorem boundaryAt_clampIndex (lines : List Text) (index : Int) :
    boundaryAt lines (Memo.clampIndex lines index) =
      boundaryAt lines index.toNat := by
  rw [boundaryAt, boundaryAt, Memo.clampIndex, ← List.take_eq_take_min]

namespace LinesAlike

variable {left right : List Text}

theorem strip_codeAt_eq
    (alike : LinesAlike left right)
    (index : Int) :
    Text.strip (codeAt left index) = Text.strip (codeAt right index) := by
  simp only [codeAt]
  split
  · rfl
  · rw [alike.boundaryAt_eq]
    exact (alike.alike index.toNat).code_eq _

theorem codeAboveIn_eq
    (alike : LinesAlike left right)
    (count : Nat) :
    codeAboveIn left count = codeAboveIn right count := by
  induction count with
  | zero => rfl
  | succ line induction =>
      rw [codeAboveIn, codeAboveIn, alike.strip_codeAt_eq, induction]

/-- Alike lines belong at the same columns. -/
theorem columnIn_eq
    (alike : LinesAlike left right)
    (style : Style)
    (index : Int) :
    columnIn style left index = columnIn style right index := by
  have clamped :
      Memo.clampIndex left index = Memo.clampIndex right index := by
    rw [Memo.clampIndex, Memo.clampIndex, alike.length_eq]
  simp only [columnIn, surroundingsIn, clamped, alike.boundaryAt_eq,
    alike.strip_codeAt_eq, alike.codeAboveIn_eq]

end LinesAlike

/-! ## Coherence -/

namespace Memo

/-- Each boundary of the memo is the one after the lines above. -/
structure Coherent (memo : Memo) (lines : List Text) : Prop where
  size_le : memo.size ≤ lines.length
  boundary_eq (line : Nat) : line < memo.size →
    memo.boundaries[line]? =
      some ((lines.take (line + 1)).foldl Boundary.after .start)

/-- The memo is coherent as far as it covers the first `count` lines. -/
def CoherentBelow (memo : Memo) (lines : List Text) (count : Nat) : Prop :=
  ∀ line, line < memo.size → line < count →
    line < lines.length ∧
      memo.boundaries[line]? = some (boundaryAt lines (line + 1))

theorem coherent_iff
    {memo : Memo}
    {lines : List Text} :
    memo.Coherent lines ↔ ∀ count, memo.CoherentBelow lines count := by
  constructor
  · intro coherent count line covered _
    exact ⟨Nat.lt_of_lt_of_le covered coherent.size_le,
      coherent.boundary_eq line covered⟩
  · intro below
    refine ⟨?_, fun line covered =>
      (below (line + 1) line covered (Nat.lt_succ_self line)).2⟩
    apply Nat.le_of_not_lt
    intro exceeds
    have last := below memo.size (memo.size - 1) (by omega) (by omega)
    omega

theorem coherent_empty (lines : List Text) : empty.Coherent lines :=
  coherent_iff.mpr fun _ _ covered => absurd covered (Nat.not_lt_zero _)

@[simp]
theorem size_cutAt (memo : Memo) (line : Nat) :
    (memo.cutAt line).size = min line memo.size := by
  simp [cutAt, size]

namespace CoherentBelow

variable {memo : Memo} {lines : List Text} {count : Nat}

theorem mono
    (below : memo.CoherentBelow lines count)
    {fewer : Nat}
    (within : fewer ≤ count) :
    memo.CoherentBelow lines fewer :=
  fun line covered inside =>
    below line covered (Nat.lt_of_lt_of_le inside within)

/-- Cutting the memo back leaves what is coherent. -/
theorem cutAt
    (below : memo.CoherentBelow lines count) :
    (memo.cutAt count).Coherent lines := by
  apply coherent_iff.mpr
  intro _ line covered _
  rw [size_cutAt] at covered
  have kept := below line (by omega) (by omega)
  refine ⟨kept.1, ?_⟩
  simpa [Memo.cutAt, List.getElem?_take, show line < count by omega]
    using kept.2

/-- Lines further down may change. -/
theorem congr
    (below : memo.CoherentBelow lines count)
    {others : List Text}
    (same : lines.take count = others.take count) :
    memo.CoherentBelow others count := by
  intro line covered inside
  have kept := below line covered inside
  have length := congrArg List.length same
  rw [List.length_take, List.length_take] at length
  refine ⟨by omega, ?_⟩
  rw [kept.2, boundaryAt_congr same (by omega)]

/-- The memo's last boundary, if all that it covers is coherent. -/
theorem last_eq
    (below : memo.CoherentBelow lines count)
    (short : memo.size ≤ count) :
    memo.last = boundaryAt lines memo.size := by
  rw [last, List.getLast?_eq_getElem?]
  cases covered : memo.size with
  | zero =>
      rw [size, List.length_eq_zero_iff] at covered
      simp [covered]
  | succ line =>
      have kept := below line (by omega) (by omega)
      rw [size] at covered
      rw [covered, Nat.add_sub_cancel, kept.2, Option.getD_some]

end CoherentBelow

theorem Coherent.of_alike
    {memo : Memo}
    {left right : List Text}
    (coherent : memo.Coherent left)
    (alike : LinesAlike left right) :
    memo.Coherent right := by
  constructor
  · rw [← alike.length_eq]
    exact coherent.size_le
  · intro line covered
    rw [coherent.boundary_eq line covered]
    exact congrArg some (alike.boundaryAt_eq (line + 1))

/-! ## Extending a memo -/

theorem length_boundariesAfter (boundary : Boundary) (lines : List Text) :
    (boundariesAfter boundary lines).length = lines.length := by
  induction lines generalizing boundary with
  | nil => rfl
  | cons line lines induction => simp [boundariesAfter, induction]

theorem getElem?_boundariesAfter
    (boundary : Boundary)
    {lines : List Text}
    {line : Nat}
    (present : line < lines.length) :
    (boundariesAfter boundary lines)[line]? =
      some ((lines.take (line + 1)).foldl Boundary.after boundary) := by
  induction lines generalizing boundary line with
  | nil => exact absurd present (Nat.not_lt_zero line)
  | cons first lines induction =>
      cases line with
      | zero => simp [boundariesAfter]
      | succ line =>
          simpa [boundariesAfter] using
            induction (boundary.after first) (Nat.lt_of_succ_lt_succ present)

/-- After an extension the memo covers the lines that were asked for. -/
theorem size_extendTo
    (memo : Memo)
    {lines : List Text}
    {count : Nat}
    (within : count ≤ lines.length) :
    (memo.extendTo lines count).size = max memo.size count := by
  rw [extendTo]
  split
  · omega
  · simp only [size, List.length_append, length_boundariesAfter,
      List.length_drop, List.length_take] at *
    omega

theorem CoherentBelow.extendTo
    {memo : Memo}
    {lines : List Text}
    {count : Nat}
    (below : memo.CoherentBelow lines count)
    (wanted : Nat) :
    (memo.extendTo lines wanted).CoherentBelow lines count := by
  rw [Memo.extendTo]
  split
  · exact below
  · intro line covered inside
    rw [size, List.length_append, length_boundariesAfter] at covered
    by_cases old : line < memo.size
    · have kept := below line old inside
      rw [size] at old
      rw [List.getElem?_append_left old]
      exact kept
    · rw [size] at old
      simp only [List.length_drop, List.length_take, size] at covered
      have last := below.last_eq (by rw [size]; omega)
      rw [size] at last
      rw [List.getElem?_append_right (by omega),
        getElem?_boundariesAfter _ (by simp [size]; omega), size, last]
      refine ⟨by omega, congrArg some ?_⟩
      have joined :
          lines.take (line + 1) =
            lines.take memo.boundaries.length ++
              (((lines.take wanted).drop memo.boundaries.length).take
                (line - memo.boundaries.length + 1)) := by
        rw [List.drop_take, List.take_take, ← List.take_add]
        congr 1
        omega
      rw [boundaryAt, boundaryAt, joined, List.foldl_append]

/-! ## Questions to a memo -/

section Questions

variable {memo : Memo} {lines : List Text} {count : Nat}

theorem boundaryBefore_snd (memo : Memo) (lines : List Text) (index : Int) :
    (memo.boundaryBefore lines index).2 =
      memo.extendTo lines (clampIndex lines index) := by
  rw [boundaryBefore]
  split <;> simp_all

theorem clampIndex_le (lines : List Text) (index : Int) :
    clampIndex lines index ≤ lines.length :=
  Nat.min_le_right _ _

theorem boundaryBefore_fst
    (below : memo.CoherentBelow lines count)
    {index : Int}
    (within : clampIndex lines index ≤ count) :
    (memo.boundaryBefore lines index).1 =
      boundaryAt lines (clampIndex lines index) := by
  have size := memo.size_extendTo (clampIndex_le lines index)
  have extended := below.extendTo (clampIndex lines index)
  rw [boundaryBefore]
  cases clamped : clampIndex lines index with
  | zero => simp
  | succ above =>
      rw [clamped] at size extended within
      have answer := extended above (by omega) (by omega)
      simp [List.getD, answer.2]

theorem codeOf_snd
    (below : memo.CoherentBelow lines count)
    (index : Int) :
    (memo.codeOf lines index).2.CoherentBelow lines count := by
  rw [codeOf]
  split
  · exact below
  · split
    · exact below
    · simpa [boundaryBefore_snd] using below.extendTo _

theorem codeOf_fst
    (below : memo.CoherentBelow lines count)
    {index : Int}
    (within : clampIndex lines index ≤ count) :
    (memo.codeOf lines index).1 = codeAt lines index := by
  rw [codeOf, codeAt]
  split
  · rfl
  · rename_i positive
    cases found : lines[index.toNat]? with
    | none => simp [List.getD, found, scan_nil]
    | some line =>
        have inside : index.toNat < lines.length :=
          (List.getElem?_eq_some_iff.mp found).1
        have clamped : clampIndex lines index = index.toNat := by
          rw [clampIndex]
          omega
        have boundary := boundaryBefore_fst below within
        rw [clamped] at boundary
        simp [List.getD, found, boundary]

theorem depthAt_fst
    (below : memo.CoherentBelow lines count)
    {index : Int}
    (within : clampIndex lines index ≤ count) :
    (memo.depthAt lines index).1 =
      (boundaryAt lines (clampIndex lines index)).depth := by
  rw [depthAt]
  exact congrArg Boundary.depth (boundaryBefore_fst below within)

theorem depthAt_snd
    (below : memo.CoherentBelow lines count)
    (index : Int) :
    (memo.depthAt lines index).2.CoherentBelow lines count := by
  simpa [depthAt, boundaryBefore_snd] using below.extendTo _

end Questions

end Memo

section Questions

variable {memo : Memo} {lines : List Text} {count : Nat}

theorem codeAbove_snd
    (below : memo.CoherentBelow lines count)
    (line : Nat) :
    (codeAbove memo lines line).2.CoherentBelow lines count := by
  induction line generalizing memo with
  | zero => exact below
  | succ line induction =>
      have asked := Memo.codeOf_snd below (line : Int)
      rw [codeAbove]
      dsimp only
      split
      · exact induction asked
      · exact asked

theorem codeAbove_fst
    (below : memo.CoherentBelow lines count)
    {line : Nat}
    (within : line ≤ count + 1)
    (present : line ≤ lines.length) :
    (codeAbove memo lines line).1 = codeAboveIn lines line := by
  induction line generalizing memo with
  | zero => rfl
  | succ line induction =>
      have clamped : Memo.clampIndex lines (line : Int) = line :=
        clampIndex_natCast (by omega)
      have code :
          (memo.codeOf lines line).1 = codeAt lines line :=
        Memo.codeOf_fst below (by rw [clamped]; omega)
      rw [codeAbove, codeAboveIn]
      dsimp only
      rw [code]
      split
      · exact induction (Memo.codeOf_snd below _) (by omega) (by omega)
      · rfl

theorem surroundingsOf_snd
    (below : memo.CoherentBelow lines count)
    (index : Int) :
    (surroundingsOf memo lines index).2.CoherentBelow lines count :=
  codeAbove_snd (Memo.codeOf_snd below index) _

/-- A memo that is coherent up to a line knows what decides its placement. -/
theorem surroundingsOf_fst
    (below : memo.CoherentBelow lines count)
    {index : Int}
    (within : Memo.clampIndex lines index ≤ count) :
    (surroundingsOf memo lines index).1 = surroundingsIn lines index := by
  have afterCode := Memo.codeOf_snd below index
  simp only [surroundingsOf, surroundingsIn, Memo.codeOf_fst below within,
    codeAbove_fst afterCode (Nat.le_succ_of_le within)
      (Memo.clampIndex_le lines index)]

theorem columnOf_snd
    (below : memo.CoherentBelow lines count)
    (index : Int)
    (style : Style) :
    (columnOf memo lines index style).2.CoherentBelow lines count :=
  surroundingsOf_snd (Memo.depthAt_snd below index) index

/-- A memo that is coherent up to a line knows where the line belongs. -/
theorem columnOf_fst
    (below : memo.CoherentBelow lines count)
    {index : Int}
    (within : Memo.clampIndex lines index ≤ count)
    (style : Style) :
    (columnOf memo lines index style).1 = columnIn style lines index := by
  have afterDepth := Memo.depthAt_snd below index
  simp only [columnOf, placementOf, columnIn, columnFrom,
    Memo.depthAt_fst below within, surroundingsOf_fst afterDepth within]

end Questions

/-! ## Coherent memos -/

section Coherent

variable {memo : Memo} {lines : List Text}

/-- A coherent memo stays coherent when it is asked for a column. -/
theorem coherent_columnOf
    (coherent : memo.Coherent lines)
    (index : Int)
    (style : Style) :
    (columnOf memo lines index style).2.Coherent lines :=
  Memo.coherent_iff.mpr fun count =>
    columnOf_snd (Memo.coherent_iff.mp coherent count) index style

/-- A coherent memo answers as an empty one does. -/
theorem columnOf_of_coherent
    (coherent : memo.Coherent lines)
    (index : Int)
    (style : Style) :
    (columnOf memo lines index style).1 = columnIn style lines index :=
  columnOf_fst (Memo.coherent_iff.mp coherent lines.length)
    (Memo.clampIndex_le lines index) style

theorem columnOf_empty
    (lines : List Text)
    (index : Int)
    (style : Style) :
    (columnOf .empty lines index style).1 = columnIn style lines index :=
  columnOf_of_coherent (Memo.coherent_empty lines) index style

end Coherent

end ClauseEditor.Indent
