import ClauseEditor.Proofs.Document.Lines

/-!
# Places in the lines

A position inside a content is a column of one of its lines: it comes after
the lines above with their separators, and no further than the end of its own
line.

A text can be a line if it holds no line end and is read back from its units.
Such texts are the lines of the content that they make up.
-/

namespace ClauseEditor.Document

/-! ## Columns -/

theorem exists_place
    {lines : List (List CodeUnit)}
    (nonempty : lines ≠ [])
    {position : Nat}
    (inside : position ≤ ([separator].intercalate lines).length) :
    ∃ line column,
      ∃ present : line < lines.length,
        column ≤ lines[line].length ∧
          position = (above (lines.take line)).length + column := by
  induction lines generalizing position with
  | nil => exact absurd rfl nonempty
  | cons first lines induction =>
      cases lines with
      | nil =>
          rw [List.intercalate_singleton] at inside
          exact ⟨0, position, Nat.zero_lt_one, inside, by simp⟩
      | cons second lines =>
          rcases Nat.lt_or_ge first.length position with behind | within
          · rw [List.intercalate_cons_cons, List.length_append,
              List.length_append, List.length_singleton] at inside
            have rest :
                position - (first.length + 1) ≤
                  ([separator].intercalate (second :: lines)).length := by
              omega
            rcases induction (List.cons_ne_nil second lines) rest with
              ⟨line, column, present, inLine, placed⟩
            refine
              ⟨line + 1, column, Nat.succ_lt_succ present, inLine, ?_⟩
            rw [List.take_succ_cons, above_cons, List.length_append,
              List.length_cons]
            omega
          · exact ⟨0, position, Nat.zero_lt_succ _, within, by simp⟩

theorem intercalate_linesOf (content : List CodeUnit) :
    [separator].intercalate (linesOf content) = content := by
  rw [linesOf_eq]
  exact List.intercalate_splitOn separator

theorem above_eq_intercalate_append
    {lines : List (List CodeUnit)}
    (nonempty : lines ≠ []) :
    above lines = [separator].intercalate lines ++ [separator] := by
  induction lines with
  | nil => exact absurd rfl nonempty
  | cons first lines induction =>
      cases lines with
      | nil => simp
      | cons second lines =>
          rw [above_cons, induction (List.cons_ne_nil second lines),
            List.intercalate_cons_cons]
          simp

/-- All lines with their separators are one unit longer than the content. -/
theorem above_linesOf (content : List CodeUnit) :
    above (linesOf content) = content ++ [separator] := by
  rw [above_eq_intercalate_append (linesOf_ne_nil content),
    intercalate_linesOf]

/-- A position is a column of the line in which it lies. -/
theorem exists_column
    {content : List CodeUnit}
    {position : Nat}
    (inside : position ≤ content.length) :
    ∃ line column,
      ∃ present : line < (linesOf content).length,
        column ≤ (linesOf content)[line].length ∧
          lineAt content position = line ∧
          position = lineStart content line + column := by
  rw [← intercalate_linesOf content] at inside
  rcases exists_place (linesOf_ne_nil content) inside with
    ⟨line, column, present, within, placed⟩
  rw [← lineStart_eq] at placed
  refine ⟨line, column, present, within, ?_, placed⟩
  rw [placed]
  exact lineAt_lineStart_add present within

/-- The units of a line are those of its text. -/
theorem encode_getD_textsOf
    {content : List CodeUnit}
    {line : Nat}
    (present : line < (linesOf content).length) :
    Utf16.encode ((textsOf content).getD line []) = (linesOf content)[line] := by
  rw [getD_textsOf present, Utf16.encode_decode]

theorem columnAt_lineStart_add
    {content : List CodeUnit}
    {line column : Nat}
    (present : line < (linesOf content).length)
    (within : column ≤ (linesOf content)[line].length) :
    columnAt content (lineStart content line + column) = column := by
  rw [columnAt, lineAt_lineStart_add present within, Nat.add_sub_cancel_left]

section Column

variable
    {content : List CodeUnit}
    {position : Nat}
    (inside : position ≤ content.length)

/-- The units in front of a position in its line. -/
def unitsBefore (content : List CodeUnit) (position : Nat) : List CodeUnit :=
  (Utf16.encode ((textsOf content).getD (lineAt content position) [])).take
    (columnAt content position)

include inside

theorem columnAt_le :
    columnAt content position ≤
      (Utf16.encode
        ((textsOf content).getD (lineAt content position) [])).length := by
  obtain ⟨line, column, present, within, sameLine, placed⟩ :=
    exists_column inside
  rw [columnAt, sameLine, placed, Nat.add_sub_cancel_left,
    encode_getD_textsOf present]
  exact within

theorem length_unitsBefore :
    (unitsBefore content position).length = columnAt content position :=
  List.length_take_of_le (columnAt_le inside)

/-- In front of a position stand the lines above and the front of its line. -/
theorem take_eq_above_append :
    content.take position =
      above ((linesOf content).take (lineAt content position)) ++
        unitsBefore content position := by
  obtain ⟨line, column, present, within, sameLine, placed⟩ :=
    exists_column inside
  rw [unitsBefore, columnAt, sameLine, placed, Nat.add_sub_cancel_left,
    encode_getD_textsOf present, List.take_add, take_lineStart present,
    drop_lineStart present, List.take_append_of_le_length within]

/-- What stands right in front of a position and ends no line is in its line. -/
theorem exists_unitsBefore_eq
    {before run : List CodeUnit}
    (parts : content.take position = before ++ run)
    (whole : separator ∉ run) :
    ∃ front, unitsBefore content position = front ++ run := by
  rw [take_eq_above_append inside] at parts
  rcases List.append_eq_append_iff.mp parts with
    ⟨front, -, line⟩ | ⟨others, lines, line⟩
  · exact ⟨front, line⟩
  · cases higher : (linesOf content).take (lineAt content position) with
    | nil =>
        rw [higher, above_nil] at lines
        have nothing := (List.append_eq_nil_iff.mp lines.symm).2
        exact ⟨[], by rw [line, nothing]; rfl⟩
    | cons first rest =>
        rw [higher, above_eq_intercalate_append (List.cons_ne_nil first rest)]
          at lines
        cases others with
        | nil => exact ⟨[], line.symm⟩
        | cons unit units =>
            -- The lines above end with a separator, which the run would hold.
            have last := congrArg List.getLast? lines
            rw [List.getLast?_concat, List.getLast?_append,
              List.getLast?_eq_some_getLast (List.cons_ne_nil unit units),
              Option.some_or, Option.some.injEq] at last
            have held := List.getLast_mem (List.cons_ne_nil unit units)
            rw [← last] at held
            rw [line] at whole
            exact absurd (List.mem_append_left _ held) whole

end Column

/-! ## Texts that are lines -/

/--
The text holds no line end and is read back from its units, as is every text
in which no two halves of a surrogate pair stand side by side.
-/
structure IsLine (text : Text) : Prop where
  whole : ∀ unit ∈ Utf16.encode text, endsLine unit = false
  readBack : Utf16.decode (Utf16.encode text) = text

theorem IsLine.contentOf_eq {text : Text} (isLine : IsLine text) :
    contentOf text = Utf16.encode text :=
  normalised_of_forall isLine.whole

theorem IsLine.notMem {text : Text} (isLine : IsLine text) :
    separator ∉ contentOf text := by
  intro member
  rw [isLine.contentOf_eq] at member
  exact absurd (isLine.whole separator member) (by decide)

theorem Settled.isLine
    {content : List CodeUnit}
    (settled : Settled content)
    {text : Text}
    (listed : text ∈ textsOf content) :
    IsLine text := by
  rcases List.mem_map.mp listed with ⟨line, lineListed, rfl⟩
  constructor
  · rw [Utf16.encode_decode]
    exact fun _ => settled.endsLine_eq_false lineListed
  · rw [Utf16.encode_decode]

/-- The content that some texts make up as its lines. -/
def contentOfLines (texts : List Text) : List CodeUnit :=
  [separator].intercalate (texts.map contentOf)

theorem Settled.map_contentOf_textsOf
    {content : List CodeUnit}
    (settled : Settled content) :
    (textsOf content).map contentOf = linesOf content := by
  rw [textsOf, List.map_map]
  have each :
      ∀ line ∈ linesOf content,
        (contentOf ∘ Utf16.decode) line = id line :=
    fun _ => settled.contentOf_decode
  exact (List.map_congr_left each).trans (List.map_id _)

theorem Settled.contentOfLines_textsOf
    {content : List CodeUnit}
    (settled : Settled content) :
    contentOfLines (textsOf content) = content := by
  rw [contentOfLines, settled.map_contentOf_textsOf, intercalate_linesOf]

section Texts

variable
    {texts : List Text}
    (nonempty : texts ≠ [])
    (areLines : ∀ text ∈ texts, IsLine text)

include nonempty areLines

theorem linesOf_contentOfLines :
    linesOf (contentOfLines texts) = texts.map contentOf := by
  rw [linesOf_eq]
  refine List.splitOn_intercalate separator ?_ ?_
  · intro line listed
    rcases List.mem_map.mp listed with ⟨text, member, rfl⟩
    exact (areLines text member).notMem
  · exact fun none => nonempty (List.map_eq_nil_iff.mp none)

/-- Lines that make up a content are read back from it. -/
theorem textsOf_contentOfLines : textsOf (contentOfLines texts) = texts := by
  rw [textsOf, linesOf_contentOfLines nonempty areLines, List.map_map]
  have each : ∀ text ∈ texts, (Utf16.decode ∘ contentOf) text = id text := by
    intro text member
    rw [Function.comp_apply, (areLines text member).contentOf_eq]
    exact (areLines text member).readBack
  exact (List.map_congr_left each).trans (List.map_id texts)

end Texts

end ClauseEditor.Document
