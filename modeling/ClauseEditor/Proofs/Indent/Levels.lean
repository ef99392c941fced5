import ClauseEditor.Proofs.Indent.Coherence

/-!
# The column of a line in one formula

A line belongs as many levels in as brackets enclose it, and some levels
beyond that: one less if the line closes a bracket, else two more if the line
continues what stands above it or what stands above it is unfinished, else
none.  The column is that many units, and never negative.

The order in which placements are tried matters for closing brackets only,
since the placements between the first and the last shift a line alike.  What
a text begins and ends with is stated here by the parts that make it up; a
connective counts only as a whole word, which letters and digits of any script
would carry on.
-/

namespace ClauseEditor.Indent

open ClauseEditor.Scallop

/-! ## How texts begin and end -/

/-- The text begins with a word that no word character carries on. -/
def StartsWithWord (text word : Text) : Prop :=
  ∃ behind, text = word ++ behind ∧ ∀ c ∈ behind.head?, c.isWord = false

/-- The text ends with a word that no word character leads into. -/
def EndsWithWord (text word : Text) : Prop :=
  ∃ before, text = before ++ word ∧ ∀ c ∈ before.getLast?, c.isWord = false

theorem endsWordBefore_iff {text : Text} :
    endsWordBefore text = true ↔ ∀ c ∈ text.head?, c.isWord = false := by
  cases text <;> simp [endsWordBefore]

theorem startsWithWord_iff {text word : Text} :
    (text.startsWith word && endsWordBefore (text.drop word.length)) = true ↔
      StartsWithWord text word := by
  rw [Bool.and_eq_true, endsWordBefore_iff, List.isPrefixOf_iff_prefix]
  constructor
  · rintro ⟨⟨behind, rfl⟩, ends⟩
    rw [List.drop_left] at ends
    exact ⟨behind, rfl, ends⟩
  · rintro ⟨behind, rfl, ends⟩
    rw [List.drop_left]
    exact ⟨List.prefix_append word behind, ends⟩

theorem endsWithWord_iff {text word : Text} :
    (endsWith text word &&
        endsWordBefore (text.take (text.length - word.length)).reverse) =
        true ↔
      EndsWithWord text word := by
  rw [Bool.and_eq_true, endsWordBefore_iff, endsWith,
    List.isSuffixOf_iff_suffix, List.head?_reverse]
  constructor
  · rintro ⟨⟨before, rfl⟩, ends⟩
    rw [List.length_append, Nat.add_sub_cancel, List.take_left] at ends
    exact ⟨before, rfl, ends⟩
  · rintro ⟨before, rfl, ends⟩
    rw [List.length_append, Nat.add_sub_cancel, List.take_left]
    exact ⟨List.suffix_append before word, ends⟩

instance (text word : Text) : Decidable (StartsWithWord text word) :=
  decidable_of_iff _ startsWithWord_iff

instance (text word : Text) : Decidable (EndsWithWord text word) :=
  decidable_of_iff _ endsWithWord_iff

/-! ## Levels -/

/-- The line begins with the end of a group or of a block. -/
def Closes (own : Text) : Prop :=
  own.head? = some (CodePoint.ofChar ')') ∨
    own.head? = some (CodePoint.ofChar '\x7d')

/-- The line begins like the inside of a rule or of a declaration. -/
def Continues (own : Text) : Prop :=
  (∃ marker ∈ ["<:", ":-", "<-"].map Text.ofString, marker <+: own) ∨
    ∃ word ∈ connectives, StartsWithWord own word

/-- The code above ends where more has to follow. -/
def IsUnfinished (above : Text) : Prop :=
  (∃ mark ∈ [":-", "<-", ","].map Text.ofString, mark <:+ above) ∨
    ∃ word ∈ connectives, EndsWithWord above word

instance (own : Text) : Decidable (Closes own) :=
  inferInstanceAs (Decidable (_ ∨ _))

instance (own : Text) : Decidable (Continues own) :=
  inferInstanceAs (Decidable (_ ∨ _))

instance (above : Text) : Decidable (IsUnfinished above) :=
  inferInstanceAs (Decidable (_ ∨ _))

/-- The levels of a line beyond the brackets that enclose it. -/
def levelsBeyond (own above : Text) : Int :=
  if Closes own then -1
  else if Continues own ∨ IsUnfinished above then 2
  else 0

theorem startsWithConnective_iff {text : Text} :
    startsWithConnective text = true ↔
      ∃ word ∈ connectives, StartsWithWord text word := by
  simp only [startsWithConnective, List.any_eq_true, startsWithWord_iff]

theorem endsWithConnective_iff {text : Text} :
    endsWithConnective text = true ↔
      ∃ word ∈ connectives, EndsWithWord text word := by
  simp only [endsWithConnective, List.any_eq_true, endsWithWord_iff]

namespace Placement

variable {surroundings : Surroundings}

theorem applies_closingBracket_iff :
    applies closingBracket surroundings = true ↔
      Closes surroundings.own := by
  have brace (c : CodePoint) :
      c.val = 0x7D ↔ c = CodePoint.ofChar '\x7d' := by
    rw [CodePoint.ext_iff]
    rfl
  rw [applies, Closes]
  cases surroundings.own.head? <;> simp [brace]

/-- Three placements depend on how the line begins. -/
theorem applies_own_iff :
    (applies subtype surroundings = true ∨
        applies ruleDefinition surroundings = true ∨
        applies continuation surroundings = true) ↔
      Continues surroundings.own := by
  simp only [applies, startsWithRuleMarker, ruleMarkers, subtypeMarker,
    Bool.or_eq_true, startsWithConnective_iff, List.isPrefixOf_iff_prefix,
    Continues, List.map_cons, List.map_nil, List.any_cons, List.any_nil,
    Bool.or_false, List.mem_cons, List.not_mem_nil, or_false,
    exists_eq_or_imp, exists_eq_left]
  grind

theorem applies_afterContinuation_iff :
    applies afterContinuation surroundings = true ↔
      IsUnfinished surroundings.above := by
  simp only [applies, ruleMarkers, endsWith, Bool.or_eq_true,
    endsWithConnective_iff, List.isSuffixOf_iff_suffix, IsUnfinished,
    List.map_cons, List.map_nil, List.any_cons, List.any_nil, Bool.or_false,
    List.mem_cons, List.not_mem_nil, or_false, exists_eq_or_imp,
    exists_eq_left]
  grind

/-- The first placement that fits, by the levels it stands for. -/
theorem shift_of (surroundings : Surroundings) :
    (of surroundings).shift =
      levelsBeyond surroundings.own surroundings.above := by
  simp only [levelsBeyond, ← applies_closingBracket_iff, ← applies_own_iff,
    ← applies_afterContinuation_iff, of, inOrder, List.find?_cons]
  cases applies closingBracket surroundings with
  | true => rfl
  | false =>
      -- The placements in the middle shift alike, whichever comes first.
      cases applies subtype surroundings <;>
        cases applies ruleDefinition surroundings <;>
          cases applies afterContinuation surroundings <;>
            cases applies continuation surroundings <;> rfl

end Placement

/-! ## The code of lines -/

/-- The stripped code text of a line; a line that is not there has none. -/
def strippedCode (lines : List Text) (index : Int) : Text :=
  if 0 ≤ index ∧ index < lines.length then
    Text.strip (Memo.empty.codeOf lines index).1
  else []

/-- The nearest stripped code text above a line that is not empty, if any. -/
def nearestCode (lines : List Text) (index : Int) : Text :=
  let codes :=
    (List.range (min index.toNat lines.length)).map fun line : Nat =>
      strippedCode lines line
  (codes.reverse.find? fun code => code ≠ []).getD []

theorem strippedCode_eq (lines : List Text) (index : Int) :
    strippedCode lines index = Text.strip (codeAt lines index) := by
  rw [strippedCode]
  split
  · rw [Memo.codeOf_fst
      (Memo.coherent_iff.mp (Memo.coherent_empty lines) lines.length)
      (Memo.clampIndex_le lines index)]
  · rename_i absent
    by_cases negative : index < 0
    · rw [codeAt, if_pos negative]
      rfl
    · rw [codeAt_of_length_le (by omega)]
      rfl

/-- Going up line by line finds the nearest code. -/
theorem nearestCode_eq (lines : List Text) (index : Int) :
    nearestCode lines index =
      codeAboveIn lines (Memo.clampIndex lines index) := by
  rw [nearestCode, Memo.clampIndex]
  induction min index.toNat lines.length with
  | zero => rfl
  | succ line induction =>
      rw [List.range_succ, List.map_append, List.map_singleton,
        List.reverse_concat, codeAboveIn, ← strippedCode_eq]
      by_cases empty : strippedCode lines line = []
      · rw [List.find?_cons_of_neg (by simp [empty]), induction, if_pos empty]
      · rw [List.find?_cons_of_pos (by simp [empty]), if_neg empty]
        rfl

/--
The column of a line: a unit for each bracket that encloses the line and for
each level beyond that, and zero if that is negative.
-/
theorem columnOf_empty_eq_max
    (lines : List Text)
    (index : Int)
    (style : Style) :
    (columnOf .empty lines index style).1 =
      max 0
        (style.unit *
          ((Memo.empty.depthAt lines index).1 +
            levelsBeyond (strippedCode lines index)
              (nearestCode lines index))) := by
  have depth :
      (Memo.empty.depthAt lines index).1 =
        (boundaryAt lines (Memo.clampIndex lines index)).depth :=
    Memo.depthAt_fst
      (Memo.coherent_iff.mp (Memo.coherent_empty lines) lines.length)
      (Memo.clampIndex_le lines index)
  rw [columnOf_empty, columnIn, columnFrom, Placement.shift_of,
    surroundingsIn, ← strippedCode_eq, ← nearestCode_eq, ← depth,
    ← Int.add_mul, Int.mul_comm]

/-- Only whole words join one line to the next. -/
example :
    levelsBeyond (Text.ofString "b") (Text.ofString "a and") = 2 ∧
      levelsBeyond (Text.ofString "order") (Text.ofString "brand") = 0 := by
  decide +kernel

end ClauseEditor.Indent
