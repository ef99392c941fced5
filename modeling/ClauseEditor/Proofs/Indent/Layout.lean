import ClauseEditor.Indent.Reindent
import ClauseEditor.Proofs.Indent.Coherence
import ClauseEditor.Proofs.Text.Lines

/-!
# The layout of lines

A line is tidied by moving it to a column, or by emptying it if it is blank.
Both leave it lexically alike to what it was, so the columns of all lines can
be computed before any of them has been moved: reindenting from the top down
with one memo gives `tidiedLines`, which tidies every line at the column that
it has in the text as it was given.

The columns of the tidied text are therefore those of the text, and a line at
its column is left alone.  So reindenting a second time changes nothing.
-/

namespace ClauseEditor.Indent

/-! ## Margins -/

@[simp]
theorem margin_content (line : Text) : margin (content line) = [] := by
  induction line with
  | nil => rfl
  | cons c rest induction =>
      by_cases isMargin : isMargin c = true
      · simpa [content, isMargin] using induction
      · simp [content, margin, isMargin]

theorem isMargin_of_mem_spaces
    {count : Nat}
    {c : CodePoint}
    (member : c ∈ Text.spaces count) :
    isMargin c = true := by
  rw [List.eq_of_mem_replicate member]
  decide

@[simp]
theorem margin_withMargin (target : Nat) (line : Text) :
    margin (withMargin target line) = Text.spaces target := by
  rw [withMargin, margin,
    List.takeWhile_append_of_pos fun _ => isMargin_of_mem_spaces]
  simpa [margin] using margin_content line

@[simp]
theorem content_withMargin (target : Nat) (line : Text) :
    content (withMargin target line) = content line := by
  have parts := margin_append_content (withMargin target line)
  rw [margin_withMargin] at parts
  exact List.append_cancel_left parts

@[simp]
theorem isBlank_content (line : Text) :
    Text.isBlank (content line) = Text.isBlank line := by
  conv =>
    rhs
    rw [← margin_append_content line, Text.isBlank_append, isBlank_margin,
      Bool.true_and]

@[simp]
theorem isBlank_withMargin (target : Nat) (line : Text) :
    Text.isBlank (withMargin target line) = Text.isBlank line := by
  rw [withMargin, Text.isBlank_append, isBlank_spaces, Bool.true_and,
    isBlank_content]

theorem foldl_columnAfter_spaces (tabWidth column : Int) (count : Nat) :
    (Text.spaces count).foldl (columnAfter tabWidth) column =
      column + count := by
  induction count generalizing column with
  | zero => simp
  | succ count induction =>
      have noTab : CodePoint.ofChar ' ' ≠ CodePoint.ofChar '\t' := by decide
      rw [Text.spaces, List.replicate_succ, List.foldl_cons, induction,
        columnAfter, if_neg noTab]
      omega

/-- Spaces are as wide as they are many. -/
@[simp]
theorem marginWidth_withMargin
    (tabWidth : Int)
    (target : Nat)
    (line : Text) :
    marginWidth tabWidth (withMargin target line) = target := by
  rw [marginWidth, margin_withMargin, foldl_columnAfter_spaces, Int.zero_add]

/-- A line that was moved to a column is there. -/
@[simp]
theorem marginWidth_aligned
    (tabWidth : Int)
    (line : Text)
    (column target : Int) :
    marginWidth tabWidth (aligned tabWidth line column target).line =
      max 0 target := by
  rw [aligned]
  split
  · assumption
  · rw [marginWidth_withMargin]
    omega

/-- A line that is at its column stays as it is. -/
theorem line_aligned_of_width
    {tabWidth : Int}
    {line : Text}
    {target : Int}
    (width : marginWidth tabWidth line = max 0 target)
    (column : Int) :
    (aligned tabWidth line column target).line = line := by
  rw [aligned, if_pos width]

@[simp]
theorem isBlank_aligned
    (tabWidth : Int)
    (line : Text)
    (column target : Int) :
    Text.isBlank (aligned tabWidth line column target).line =
      Text.isBlank line := by
  rw [aligned]
  split
  · rfl
  · exact isBlank_withMargin target.toNat line

/-- Moving a line changes its margin and nothing else. -/
@[simp]
theorem content_aligned
    (tabWidth : Int)
    (line : Text)
    (column target : Int) :
    content (aligned tabWidth line column target).line = content line := by
  rw [aligned]
  split
  · rfl
  · exact content_withMargin target.toNat line

/-- The margin of a text can be measured when tab stops have a width. -/
theorem moveTo_eq
    {style : Style}
    (positive : 1 ≤ style.tabWidth)
    (line : Text)
    (column target : Int) :
    moveTo style line column target =
      .ok (aligned style.tabWidth line column target) := by
  have notZero : style.tabWidth ≠ 0 := by omega
  simp [moveTo, marginWidth?, notZero, Except.map]

/-! ## Tidying a line -/

/-- A line moved to a column, or emptied if it is blank. -/
def tidied (style : Style) (column : Int) (line : Text) : Text :=
  if Text.isBlank line then emptied line
  else (aligned style.tabWidth line 0 column).line

@[simp]
theorem isBlank_emptied (line : Text) :
    Text.isBlank (emptied line) = true := by
  rw [emptied]
  split <;> decide

@[simp]
theorem emptied_emptied (line : Text) :
    emptied (emptied line) = emptied line := by
  by_cases returns : line.getLast? = some (CodePoint.ofChar '\r') <;>
    simp [emptied, returns]

@[simp]
theorem tidied_nil (style : Style) (column : Int) :
    tidied style column [] = [] := rfl

theorem alike_tidied (style : Style) (column : Int) (line : Text) :
    Alike line (tidied style column line) := by
  by_cases isBlank : Text.isBlank line = true
  · rw [tidied, if_pos isBlank]
    exact .of_isBlank isBlank (isBlank_emptied line)
  · rw [tidied, if_neg isBlank]
    exact .aligned style.tabWidth line 0 column

/-- A tidied line stays as it is. -/
@[simp]
theorem tidied_tidied (style : Style) (column : Int) (line : Text) :
    tidied style column (tidied style column line) =
      tidied style column line := by
  by_cases isBlank : Text.isBlank line = true
  · simp [tidied, isBlank]
  · simp only [tidied, if_neg isBlank, isBlank_aligned]
    exact line_aligned_of_width
      (marginWidth_aligned style.tabWidth line 0 column) 0

theorem notMem_tidied
    {c : CodePoint}
    {line : Text}
    (visible : c ≠ CodePoint.ofChar ' ' ∧ c ≠ CodePoint.ofChar '\r')
    (absent : c ∉ line)
    (style : Style)
    (column : Int) :
    c ∉ tidied style column line := by
  rw [tidied]
  split
  · rw [emptied]
    split <;> simp [visible.2]
  · rw [aligned]
    split
    · exact absent
    · intro member
      rcases List.mem_append.mp member with spaces | rest
      · exact visible.1 (List.eq_of_mem_replicate spaces)
      · exact absent ((List.dropWhile_sublist isMargin).subset rest)

/-! ## Tidying lines -/

/-- Some lines tidied, each at the column where it belongs. -/
def tidiedAt
    (style : Style)
    (lines : List Text)
    (numbers : List Nat) :
    List Text :=
  lines.mapIdx fun number line =>
    if number ∈ numbers then tidied style (columnIn style lines number) line
    else line

/-- All lines tidied, each at the column where it belongs. -/
def tidiedLines (style : Style) (lines : List Text) : List Text :=
  lines.mapIdx fun number line =>
    tidied style (columnIn style lines number) line

@[simp]
theorem length_tidiedLines (style : Style) (lines : List Text) :
    (tidiedLines style lines).length = lines.length :=
  List.length_mapIdx

@[simp]
theorem tidiedAt_nil (style : Style) (lines : List Text) :
    tidiedAt style lines [] = lines := by
  apply List.ext_getElem?
  intro number
  simp [tidiedAt]

theorem tidiedAt_range (style : Style) (lines : List Text) :
    tidiedAt style lines (List.range lines.length) =
      tidiedLines style lines := by
  apply List.mapIdx_eq_mapIdx_iff.mpr
  intro number present
  simp [present]

/-- The lines with one of them tidied. -/
def tidiedOne (style : Style) (lines : List Text) (number : Nat) : List Text :=
  lines.set number
    (tidied style (columnIn style lines number) (lines.getD number []))

theorem linesAlike_tidiedOne
    (style : Style)
    (lines : List Text)
    (number : Nat) :
    LinesAlike lines (tidiedOne style lines number) :=
  .set lines number (alike_tidied style _ _)

@[simp]
theorem length_tidiedOne
    (style : Style)
    (lines : List Text)
    (number : Nat) :
    (tidiedOne style lines number).length = lines.length :=
  List.length_set

section Lookup

variable
    {style : Style}
    {lines : List Text}
    {number : Nat}

theorem getD_tidiedOne :
    (tidiedOne style lines number).getD number [] =
      tidied style (columnIn style lines number) (lines.getD number []) := by
  by_cases present : number < lines.length
  · simp [tidiedOne, List.getD, present]
  · have absent := List.getElem?_eq_none (Nat.le_of_not_lt present)
    rw [tidiedOne, List.set_eq_of_length_le (Nat.le_of_not_lt present)]
    simp [List.getD, absent]

theorem getD_tidiedAt
    {numbers : List Nat}
    (chosen : number ∈ numbers) :
    (tidiedAt style lines numbers).getD number [] =
      tidied style (columnIn style lines number) (lines.getD number []) := by
  cases found : lines[number]? <;>
    simp [tidiedAt, List.getD, List.getElem?_mapIdx, found, chosen]

theorem getD_tidiedOne_of_ne
    {other : Nat}
    (different : number ≠ other) :
    (tidiedOne style lines number).getD other [] = lines.getD other [] := by
  rw [tidiedOne, List.getD_eq_getElem?_getD, List.getElem?_set_ne different,
    List.getD_eq_getElem?_getD]

end Lookup

/-- Tidying one line and then others is tidying all of these at once. -/
theorem tidiedAt_tidiedOne
    (style : Style)
    (lines : List Text)
    (number : Nat)
    (numbers : List Nat) :
    tidiedAt style (tidiedOne style lines number) numbers =
      tidiedAt style lines (number :: numbers) := by
  have columns (other : Nat) :
      columnIn style (tidiedOne style lines number) other =
        columnIn style lines other :=
    ((linesAlike_tidiedOne style lines number).columnIn_eq style other).symm
  simp only [tidiedAt, columns]
  apply List.ext_getElem?
  intro other
  rw [List.getElem?_mapIdx, List.getElem?_mapIdx, tidiedOne]
  by_cases same : number = other
  · subst other
    by_cases present : number < lines.length
    · by_cases again : number ∈ numbers <;> simp [present, again]
    · rw [List.set_eq_of_length_le (Nat.le_of_not_lt present)]
      simp [List.getElem?_eq_none (Nat.le_of_not_lt present)]
  · rw [List.getElem?_set_ne same]
    simp [Ne.symm same]

/-- Of some lines those that tidying changes, the first one apart. -/
theorem countP_tidiedAt_cons
    (style : Style)
    (lines : List Text)
    {number : Nat}
    {numbers : List Nat}
    (fresh : number ∉ numbers) :
    (number :: numbers).countP (fun line =>
        (tidiedAt style lines (number :: numbers)).getD line [] ≠
          lines.getD line []) =
      (if (tidiedOne style lines number).getD number [] =
          lines.getD number [] then 0 else 1) +
        numbers.countP fun line =>
          (tidiedAt style (tidiedOne style lines number) numbers).getD line
              [] ≠
            (tidiedOne style lines number).getD line [] := by
  have others :
      numbers.countP (fun line =>
          (tidiedAt style (tidiedOne style lines number) numbers).getD line
              [] ≠
            (tidiedOne style lines number).getD line []) =
        numbers.countP fun line =>
          (tidiedAt style lines (number :: numbers)).getD line [] ≠
            lines.getD line [] := by
    apply List.countP_congr
    intro other member
    have different : number ≠ other := by
      rintro rfl
      exact fresh member
    rw [tidiedAt_tidiedOne, getD_tidiedOne_of_ne different]
  rw [others, List.countP_cons, Nat.add_comm, getD_tidiedOne,
    ← getD_tidiedAt List.mem_cons_self]
  congr 1
  by_cases same :
      (tidiedAt style lines (number :: numbers)).getD number [] =
        lines.getD number []
  · rw [if_pos same, if_neg]
    simpa using same
  · rw [if_neg same, if_pos]
    simpa using same

theorem linesAlike_tidiedLines (style : Style) (lines : List Text) :
    LinesAlike lines (tidiedLines style lines) := by
  constructor
  · exact (length_tidiedLines style lines).symm
  · intro number
    by_cases present : number < lines.length
    · simpa [tidiedLines, List.getD, present] using alike_tidied style _ _
    · simp only [tidiedLines, List.getD, List.getElem?_mapIdx,
        List.getElem?_eq_none (Nat.le_of_not_lt present), Option.map_none]
      exact .refl []

/-- Tidied lines stay as they are. -/
theorem tidiedLines_tidiedLines (style : Style) (lines : List Text) :
    tidiedLines style (tidiedLines style lines) = tidiedLines style lines := by
  have alike := linesAlike_tidiedLines style lines
  apply List.ext_getElem?
  intro number
  rw [tidiedLines, List.getElem?_mapIdx, ← alike.columnIn_eq]
  simp only [tidiedLines, List.getElem?_mapIdx, Option.map_map]
  congr 1
  funext line
  exact tidied_tidied style _ line

/-! ## Reindenting from the top down -/

/-- One step of the pass tidies one line and keeps the memo coherent. -/
theorem reindentLine_eq
    {style : Style}
    (positive : 1 ≤ style.tabWidth)
    {lines : List Text}
    {memo : Memo}
    (coherent : memo.Coherent lines)
    {index : Nat}
    (present : index < lines.length) :
    ∃ longer : Memo, longer.Coherent (tidiedOne style lines index) ∧
      reindentLine style lines memo index =
        .ok (tidiedOne style lines index, longer) := by
  have alike := linesAlike_tidiedOne style lines index
  by_cases isBlank : Text.isBlank lines[index] = true
  · refine ⟨memo, coherent.of_alike alike, ?_⟩
    simp [reindentLine, tidiedOne, tidied, present, isBlank]
  · refine ⟨(columnOf memo lines index style).2,
      (coherent_columnOf coherent index style).of_alike alike, ?_⟩
    rw [tidiedOne, tidied, List.getD_eq_getElem lines [] present,
      if_neg isBlank, reindentLine, List.getElem?_eq_getElem present]
    dsimp only
    rw [if_neg isBlank, moveTo_eq positive, columnOf_of_coherent coherent]
    rfl

/-- The pass tidies the lines that it goes over. -/
theorem reindentLines_eq
    {style : Style}
    (positive : 1 ≤ style.tabWidth)
    {lines : List Text}
    {memo : Memo}
    (coherent : memo.Coherent lines)
    {index count : Nat}
    (within : index + count ≤ lines.length) :
    reindentLines style lines memo index count =
      .ok (tidiedAt style lines (List.range' index count)) := by
  -- The memo that one step hands on is coherent with the lines it hands on.
  induction count generalizing lines memo index with
  | zero => rw [reindentLines, List.range'_zero, tidiedAt_nil]
  | succ count induction =>
      obtain ⟨longer, longerCoherent, step⟩ :=
        reindentLine_eq positive coherent (show index < lines.length by omega)
      rw [reindentLines, step]
      have rest :
          index + 1 + count ≤ (tidiedOne style lines index).length := by
        rw [length_tidiedOne]
        omega
      rw [List.range'_succ, ← tidiedAt_tidiedOne]
      exact induction longerCoherent rest

/-- Reindenting a text tidies its lines at the columns that they have in it. -/
theorem reindentText_eq
    {style : Style}
    (positive : 1 ≤ style.tabWidth)
    (text : Text) :
    reindentText style text =
      .ok (Text.ofLines (tidiedLines style text.lines)) := by
  have pass :
      reindentLines style text.lines .empty 0 text.lines.length =
        .ok (tidiedLines style text.lines) := by
    rw [reindentLines_eq positive (Memo.coherent_empty text.lines)
      (Nat.le_of_eq (Nat.zero_add _)), ← List.range_eq_range', tidiedAt_range]
  rw [reindentText]
  simp only [pass]
  rfl

/-- Tidying puts in nothing but spaces and carriage returns. -/
theorem notMem_of_mem_tidiedLines
    {c : CodePoint}
    {lines : List Text}
    (visible : c ≠ CodePoint.ofChar ' ' ∧ c ≠ CodePoint.ofChar '\r')
    (absent : ∀ line ∈ lines, c ∉ line)
    {style : Style}
    {line : Text}
    (listed : line ∈ tidiedLines style lines) :
    c ∉ line := by
  rcases List.mem_mapIdx.mp listed with ⟨number, present, rfl⟩
  exact notMem_tidied visible (absent _ (List.getElem_mem present)) style _

theorem lines_ofLines_tidiedLines
    (style : Style)
    {lines : List Text}
    (nonempty : lines ≠ [])
    (whole : ∀ line ∈ lines, CodePoint.ofChar '\n' ∉ line) :
    Text.lines (Text.ofLines (tidiedLines style lines)) =
      tidiedLines style lines := by
  refine Text.lines_ofLines ?_ fun _ =>
    notMem_of_mem_tidiedLines (by decide) whole
  rw [tidiedLines, ne_eq, List.mapIdx_eq_nil_iff]
  exact nonempty

/--
Reindenting a text always succeeds when tab stops have a width, and
reindenting the outcome gives the same text again.
-/
theorem reindentText_idempotent
    (style : Style)
    (positive : 1 ≤ style.tabWidth)
    (text : Text) :
    ∃ tidy : Text,
      reindentText style text = .ok tidy ∧
        reindentText style tidy = .ok tidy := by
  refine ⟨_, reindentText_eq positive text, ?_⟩
  rw [reindentText_eq positive,
    lines_ofLines_tidiedLines style (Text.lines_ne_nil text)
      (fun _ => Text.notMem_of_mem_lines),
    tidiedLines_tidiedLines]

/-- A tab, a comment over two lines and a carriage return in a blank line. -/
theorem reindentText_idempotent_sample :
    1 ≤ Style.standard.tabWidth ∧
      ∃ tidy : Text,
        tidy = Text.ofString "a(\n  b /* (\n  ( */ c\n\r\n)" ∧
          reindentText .standard
              (Text.ofString "a(\n\tb /* (\n ( */ c\n \r\n)") = .ok tidy ∧
          reindentText .standard tidy = .ok tidy := by
  have positive : 1 ≤ Style.standard.tabWidth := by decide
  obtain ⟨tidy, reached, again⟩ :=
    reindentText_idempotent .standard positive
      (Text.ofString "a(\n\tb /* (\n ( */ c\n \r\n)")
  refine ⟨positive, tidy, ?_, reached, again⟩
  rw [reindentText_eq positive] at reached
  rw [← Except.ok.inj reached]
  decide +kernel

end ClauseEditor.Indent
