import ClauseEditor.Proofs.Indent.Layout

/-!
# Independence of the layout

Reindenting goes down the lines of a text and moves each of them among lines
that were moved before.  Its outcome is the one of moving every line by
itself in the text as it was given.

The margins of the given text then have no part in the outcome.  Lines that
have the same contents are lexically alike, so they belong at the same
columns, and a line at its column shows its content there.  A margin that is
wide enough already keeps its tabs; where there are no tabs, the outcome is
determined by the contents.
-/

namespace ClauseEditor.Indent

/-! ## Lines moved by themselves -/

/--
Each line of a reindented text is the line of the given text, moved by itself
to the column that it has there, or emptied up to a carriage return if it is
blank.
-/
theorem lines_reindentText
    {style : Style}
    (positive : 1 ≤ style.tabWidth)
    (text : Text) :
    ∃ tidy : Text,
      reindentText style text = .ok tidy ∧
        tidy.lines.length = text.lines.length ∧
        ∀ (number : Nat) (line : Text), text.lines[number]? = some line →
          (Text.isBlank line = true →
            tidy.lines[number]? =
              some (if line.getLast? = some (CodePoint.ofChar '\r') then
                [CodePoint.ofChar '\r'] else [])) ∧
          (Text.isBlank line = false →
            ∃ placed : Placed,
              moveTo style line 0
                  (columnOf .empty text.lines number style).1 =
                .ok placed ∧
              tidy.lines[number]? = some placed.line) := by
  refine ⟨_, reindentText_eq positive text, ?_⟩
  rw [lines_ofLines_tidiedLines style (Text.lines_ne_nil text)
    fun _ => Text.notMem_of_mem_lines]
  refine ⟨length_tidiedLines style text.lines, ?_⟩
  intro number line found
  have outcome :
      (tidiedLines style text.lines)[number]? =
        some (tidied style (columnIn style text.lines number) line) := by
    rw [tidiedLines, List.getElem?_mapIdx, found, Option.map_some]
  rw [outcome, tidied]
  constructor
  · intro isBlank
    rw [if_pos isBlank, emptied]
  · intro visible
    refine ⟨_, moveTo_eq positive line 0 _, ?_⟩
    rw [if_neg (ne_true_of_eq_false visible), columnOf_empty]

/-- A blank line and a line behind a tab. -/
theorem lines_reindentText_sample :
    1 ≤ Style.standard.tabWidth ∧
      ∃ tidy : Text,
        reindentText .standard (Text.ofString "a(\n \r\n\tb") = .ok tidy ∧
          tidy.lines[1]? = some (Text.ofString "\r") ∧
          tidy.lines[2]? = some (Text.ofString "  b") := by
  have positive : 1 ≤ Style.standard.tabWidth := by decide
  obtain ⟨tidy, reached, _, each⟩ :=
    lines_reindentText positive (Text.ofString "a(\n \r\n\tb")
  have blank :=
    (each 1 (Text.ofString " \r") (by decide +kernel)).1 (by decide +kernel)
  obtain ⟨placed, moved, shown⟩ :=
    (each 2 (Text.ofString "\tb") (by decide +kernel)).2 (by decide +kernel)
  have placed_eq : placed = ⟨Text.ofString "  b", 2⟩ := by
    rw [moveTo_eq positive] at moved
    rw [← Except.ok.inj moved]
    decide +kernel
  refine ⟨positive, tidy, reached, blank, ?_⟩
  rw [shown, placed_eq]

/-! ## Lines with the same content -/

theorem Alike.of_content_eq
    {left right : Text}
    (same : Indent.content left = Indent.content right) :
    Alike left right :=
  (Alike.content left).trans (same ▸ (Alike.content right).symm)

/-- A carriage return is not part of a margin. -/
theorem emptied_content (line : Text) :
    emptied (content line) = emptied line := by
  have last :
      (content line).getLast? = some (CodePoint.ofChar '\r') ↔
        line.getLast? = some (CodePoint.ofChar '\r') := by
    conv =>
      rhs
      rw [← margin_append_content line, List.getLast?_append]
    cases (content line).getLast? with
    | some c => rw [Option.some_or]
    | none =>
        rw [Option.none_or]
        refine ⟨fun absent => (nomatch absent), fun returns => ?_⟩
        have member := List.mem_of_getLast? returns
        have isMargin := isMargin_of_mem_margin member
        exact absurd isMargin (by decide)
  simp only [emptied, last]

section Line

variable
    {left right : Text}
    (same : content left = content right)
    (style : Style)
    (column : Int)

include same

theorem isBlank_eq_of_content_eq :
    Text.isBlank left = Text.isBlank right := by
  rw [← isBlank_content, same, isBlank_content]

theorem emptied_eq_of_content_eq : emptied left = emptied right := by
  rw [← emptied_content, same, emptied_content]

theorem content_tidied_eq :
    content (tidied style column left) =
      content (tidied style column right) := by
  rw [tidied, tidied, isBlank_eq_of_content_eq same,
    emptied_eq_of_content_eq same]
  split
  · rfl
  · rw [content_aligned, content_aligned, same]

theorem marginWidth_tidied_eq :
    marginWidth style.tabWidth (tidied style column left) =
      marginWidth style.tabWidth (tidied style column right) := by
  rw [tidied, tidied, isBlank_eq_of_content_eq same,
    emptied_eq_of_content_eq same]
  split
  · rfl
  · rw [marginWidth_aligned, marginWidth_aligned]

end Line

/-! ## Margins without tabs -/

theorem margin_eq_spaces
    {line : Text}
    (noTab : CodePoint.ofChar '\t' ∉ margin line) :
    margin line = Text.spaces (margin line).length := by
  refine List.eq_replicate_iff.mpr ⟨rfl, ?_⟩
  intro c member
  have isMargin := isMargin_of_mem_margin member
  rw [Indent.isMargin, Bool.or_eq_true, decide_eq_true_eq,
    decide_eq_true_eq] at isMargin
  rcases isMargin with space | rfl
  · exact space
  · exact absurd member noTab

/-- A line without tabs that is at its column has that many spaces. -/
theorem line_aligned_of_noTab
    {line : Text}
    (noTab : CodePoint.ofChar '\t' ∉ margin line)
    (tabWidth column target : Int) :
    (aligned tabWidth line column target).line =
      withMargin target.toNat line := by
  have spaces := margin_eq_spaces noTab
  rw [aligned]
  split
  · rename_i width
    rw [marginWidth, spaces, foldl_columnAfter_spaces] at width
    have count : (margin line).length = target.toNat := by omega
    rw [withMargin, ← count, ← spaces, margin_append_content]
  · rfl

theorem tidied_eq_of_noTab
    {left right : Text}
    (same : content left = content right)
    (leftNoTab : CodePoint.ofChar '\t' ∉ margin left)
    (rightNoTab : CodePoint.ofChar '\t' ∉ margin right)
    (style : Style)
    (column : Int) :
    tidied style column left = tidied style column right := by
  rw [tidied, tidied, isBlank_eq_of_content_eq same,
    emptied_eq_of_content_eq same, line_aligned_of_noTab leftNoTab,
    line_aligned_of_noTab rightNoTab, withMargin, withMargin, same]

/-! ## Texts with the same contents -/

section Lines

variable
    {left right : List Text}
    (same : left.map content = right.map content)

include same

theorem getElem?_content_eq (number : Nat) :
    (left[number]?).map content = (right[number]?).map content := by
  rw [← List.getElem?_map, same, List.getElem?_map]

theorem LinesAlike.of_content_eq : LinesAlike left right := by
  have content_getD (line : Option Text) :
      content (line.getD []) = (line.map content).getD [] := by
    cases line <;> rfl
  constructor
  · simpa using congrArg List.length same
  · intro number
    apply Alike.of_content_eq
    rw [List.getD_eq_getElem?_getD, List.getD_eq_getElem?_getD,
      content_getD, content_getD, getElem?_content_eq same]

/--
Tidied lines agree in whatever tidying makes of lines with the same content.
-/
theorem map_tidiedLines_eq
    {α : Type}
    (look : Text → α)
    (style : Style)
    (agree : ∀ first ∈ left, ∀ second ∈ right,
      content first = content second → ∀ column,
        look (tidied style column first) =
          look (tidied style column second)) :
    (tidiedLines style left).map look =
      (tidiedLines style right).map look := by
  have columns (number : Nat) :
      columnIn style left number = columnIn style right number :=
    (LinesAlike.of_content_eq same).columnIn_eq style number
  apply List.ext_getElem?
  intro number
  have contents := getElem?_content_eq same number
  simp only [tidiedLines, columns, List.getElem?_map, List.getElem?_mapIdx]
  cases leftFound : left[number]? with
  | none =>
      rw [leftFound] at contents
      rw [Option.map_eq_none_iff.mp contents.symm]
  | some first =>
      rw [leftFound] at contents
      obtain ⟨second, rightFound, equal⟩ :=
        Option.map_eq_some_iff.mp contents.symm
      rw [rightFound]
      exact congrArg some
        (agree first (List.mem_of_getElem? leftFound) second
          (List.mem_of_getElem? rightFound) equal.symm _)

end Lines

/--
Texts whose lines have the same contents have the same layout once they are
reindented: the same contents at the same columns.  If no margin held a tab,
they are the same text.
-/
theorem reindentText_layout
    {style : Style}
    (positive : 1 ≤ style.tabWidth)
    {left right : Text}
    (same : left.lines.map content = right.lines.map content) :
    ∃ leftTidy rightTidy : Text,
      reindentText style left = .ok leftTidy ∧
        reindentText style right = .ok rightTidy ∧
        leftTidy.lines.map content = rightTidy.lines.map content ∧
        (∃ widths : List Int,
          leftTidy.lines.map (marginWidth? style.tabWidth) =
              widths.map .ok ∧
            rightTidy.lines.map (marginWidth? style.tabWidth) =
              widths.map .ok) ∧
        ((∀ line ∈ left.lines ++ right.lines,
            CodePoint.ofChar '\t' ∉ margin line) →
          leftTidy = rightTidy) := by
  have notZero : style.tabWidth ≠ 0 := by omega
  have measured (lines : List Text) :
      lines.map (marginWidth? style.tabWidth) =
        (lines.map (marginWidth style.tabWidth)).map .ok := by
    simp [marginWidth?, notZero]
  refine ⟨_, _, reindentText_eq positive left, reindentText_eq positive right,
    ?_⟩
  rw [lines_ofLines_tidiedLines style (Text.lines_ne_nil left)
      fun _ => Text.notMem_of_mem_lines,
    lines_ofLines_tidiedLines style (Text.lines_ne_nil right)
      fun _ => Text.notMem_of_mem_lines]
  refine ⟨?_, ⟨_, measured _, ?_⟩, ?_⟩
  · exact map_tidiedLines_eq same _ style fun _ _ _ _ equal column =>
      content_tidied_eq equal style column
  · rw [measured, map_tidiedLines_eq same _ style fun _ _ _ _ equal column =>
      marginWidth_tidied_eq equal style column]
  · intro noTab
    have lines :=
      map_tidiedLines_eq same id style
        fun first firstListed second secondListed equal column =>
          tidied_eq_of_noTab equal
            (noTab first (List.mem_append_left _ firstListed))
            (noTab second (List.mem_append_right _ secondListed)) style column
    rw [List.map_id, List.map_id] at lines
    rw [lines]

/--
A tab as wide as the column stays, so texts can differ that look alike; margins
without tabs leave no trace.
-/
theorem reindentText_layout_sample :
    (∃ leftTidy rightTidy : Text,
      reindentText ⟨2, 2⟩ (Text.ofString "a(\n\tb") = .ok leftTidy ∧
        reindentText ⟨2, 2⟩ (Text.ofString "a(\n b") = .ok rightTidy ∧
        leftTidy.lines.map content = rightTidy.lines.map content ∧
        leftTidy ≠ rightTidy) ∧
      ∃ tidy : Text,
        reindentText ⟨2, 2⟩ (Text.ofString "a(\n b") = .ok tidy ∧
          reindentText ⟨2, 2⟩ (Text.ofString " a(\nb") = .ok tidy := by
  have positive : 1 ≤ (⟨2, 2⟩ : Style).tabWidth := by decide
  constructor
  · obtain ⟨leftTidy, rightTidy, left, right, contents, _, _⟩ :=
      @reindentText_layout ⟨2, 2⟩ positive (Text.ofString "a(\n\tb")
        (Text.ofString "a(\n b") (by decide +kernel)
    refine ⟨leftTidy, rightTidy, left, right, contents, ?_⟩
    rw [reindentText_eq positive] at left right
    rw [← Except.ok.inj left, ← Except.ok.inj right]
    decide +kernel
  · obtain ⟨leftTidy, rightTidy, left, right, _, _, equal⟩ :=
      @reindentText_layout ⟨2, 2⟩ positive (Text.ofString "a(\n b")
        (Text.ofString " a(\nb") (by decide +kernel)
    have same := equal (by decide +kernel)
    exact ⟨leftTidy, left, same ▸ right⟩

end ClauseEditor.Indent
