import Mathlib.Data.List.Chain
import ClauseEditor.Proofs.Highlight.Renaming
import ClauseEditor.Text.Printable

/-!
# Characters that open no comment

Which lines of a document end within a block comment depends on its quotes,
backslashes, slashes and stars, and not on its other printable characters,
except for how many units these have.  A character with two units in the place
of one with a single unit shifts what the scan counts in code points against
what it counts in units.
-/

namespace ClauseEditor

namespace CodePoint

/-! ## Printable characters -/

/-- One range of a table comes before another. -/
def Precedes (lower upper : Nat × Nat) : Prop :=
  lower.2 < upper.1 ∧ upper.1 ≤ upper.2

instance (lower upper : Nat × Nat) : Decidable (Precedes lower upper) :=
  inferInstanceAs (Decidable (_ ∧ _))

instance : IsTrans (Nat × Nat) Precedes where
  trans := by
    intro lower middle upper first second
    exact
      ⟨Nat.lt_trans first.1 (Nat.lt_of_le_of_lt first.2 second.1), second.2⟩

/-- What is in a range of an ascending table is within the table. -/
theorem within_of_mem
    {table : List (Nat × Nat)}
    (ascending : table.IsChain Precedes)
    (ordered : ∀ range ∈ table, range.1 ≤ range.2)
    {range : Nat × Nat}
    (listed : range ∈ table)
    {c : CodePoint}
    (lower : range.1 ≤ c.val)
    (upper : c.val ≤ range.2) :
    c.within table = true := by
  rw [List.isChain_iff_pairwise] at ascending
  induction table with
  | nil => cases listed
  | cons first table induction =>
      rw [List.pairwise_cons] at ascending
      rw [List.forall_mem_cons] at ordered
      rw [within]
      rcases List.mem_cons.mp listed with rfl | further
      · rw [if_neg (Nat.not_lt.mpr lower), if_pos upper]
      · have passed := (ascending.1 range further).1
        have start := ordered.1
        rw [if_neg (by omega), if_neg (by omega)]
        exact induction ascending.2 ordered.2 further

/-- No half of a surrogate pair is printable. -/
theorem isPrintable_eq_false_of_surrogate
    {c : CodePoint}
    (lower : 0xD800 ≤ c.val)
    (upper : c.val ≤ 0xDFFF) :
    c.isPrintable = false := by
  have within : c.within unprintable = true :=
    within_of_mem (by decide +kernel) (by decide +kernel)
      (by decide +kernel : (0xD7FC, 0xF8FF) ∈ unprintable)
      (Nat.le_trans (by decide) lower) (Nat.le_trans upper (by decide))
  rw [isPrintable, within]
  rfl

end CodePoint

namespace Highlight

open ClauseEditor.Scallop
open Document

/-! ## One unit for every kind -/

/-- Renames every unit to one of its kind. -/
def mask (unit : CodeUnit) : CodeUnit :=
  if unit.isHigh then .ofNat 0xD800
  else if unit.isLow then .ofNat 0xDC00
  else if unit ∈ marks then unit
  else .ofChar 'a'

theorem isHigh_eq_false_of_isLow
    {unit : CodeUnit}
    (low : unit.isLow = true) :
    unit.isHigh = false := by
  simp only [CodeUnit.isHigh, CodeUnit.isLow, Bool.and_eq_true,
    Bool.and_eq_false_iff, decide_eq_true_eq, decide_eq_false_iff_not] at low ⊢
  omega

theorem isBasic_marks : Utf16.IsBasic marks := by
  decide

/-- What a unit of each kind is renamed to. -/
theorem mask_cases (unit : CodeUnit) :
    unit.isHigh = true ∧ mask unit = .ofNat 0xD800 ∨
      unit.isLow = true ∧ mask unit = .ofNat 0xDC00 ∨
      unit ∈ marks ∧ mask unit = unit ∨
      unit.isHigh = false ∧ unit.isLow = false ∧ unit ∉ marks ∧
        mask unit = .ofChar 'a' := by
  rw [mask]
  split
  · rename_i high
    exact .inl ⟨high, rfl⟩
  · rename_i notHigh
    split
    · rename_i low
      exact .inr (.inl ⟨low, rfl⟩)
    · rename_i notLow
      split
      · rename_i isMark
        exact .inr (.inr (.inl ⟨isMark, rfl⟩))
      · rename_i other
        rw [Bool.not_eq_true] at notHigh notLow
        exact .inr (.inr (.inr ⟨notHigh, notLow, other, rfl⟩))

theorem keepsMarks_mask : KeepsMarks mask where
  isHigh_eq unit := by
    rcases mask_cases unit with
      ⟨high, same⟩ | ⟨low, same⟩ | ⟨_, same⟩ | ⟨notHigh, _, _, same⟩
    · rw [same, high]
      rfl
    · rw [same, isHigh_eq_false_of_isLow low]
      rfl
    · rw [same]
    · rw [same, notHigh]
      rfl
  isLow_eq unit := by
    rcases mask_cases unit with
      ⟨high, same⟩ | ⟨low, same⟩ | ⟨_, same⟩ | ⟨_, notLow, _, same⟩
    · have notLow : unit.isLow = false := by
        by_contra low
        rw [Bool.not_eq_false] at low
        exact absurd (isHigh_eq_false_of_isLow low) (by simp [high])
      rw [same, notLow]
      rfl
    · rw [same, low]
      rfl
    · rw [same]
    · rw [same, notLow]
      rfl
  eq_iff mark isMark unit := by
    have halves := isBasic_marks mark isMark
    have others :
        ∀ mark ∈ marks,
          CodeUnit.ofNat 0xD800 ≠ mark ∧ CodeUnit.ofNat 0xDC00 ≠ mark ∧
            CodeUnit.ofChar 'a' ≠ mark := by
      decide
    have distinct := others mark isMark
    rcases mask_cases unit with
      ⟨high, same⟩ | ⟨low, same⟩ | ⟨_, same⟩ | ⟨_, _, noMark, same⟩
    · rw [same]
      refine iff_of_false distinct.1 ?_
      rintro rfl
      exact absurd high (by simp [halves.1])
    · rw [same]
      refine iff_of_false distinct.2.1 ?_
      rintro rfl
      exact absurd low (by simp [halves.2])
    · rw [same]
    · rw [same]
      refine iff_of_false distinct.2.2 ?_
      rintro rfl
      exact noMark isMark

/-! ## Ordinary characters -/

/-- A printable character that literals are not made of. -/
structure IsOrdinary (c : CodePoint) : Prop where
  isPrintable_eq : c.isPrintable = true
  plain : c ∉ [quote, backslash, slash, Scallop.star]

instance (c : CodePoint) : Decidable (IsOrdinary c) :=
  decidable_of_iff
    (c.isPrintable = true ∧ c ∉ [quote, backslash, slash, Scallop.star])
    ⟨fun ⟨isPrintable, plain⟩ => ⟨isPrintable, plain⟩,
      fun ⟨isPrintable, plain⟩ => ⟨isPrintable, plain⟩⟩

/--
A character stays, or is replaced by another ordinary one; both are in the Basic
Multilingual Plane or neither is.
-/
def Replaces (old new : CodePoint) : Prop :=
  old = new ∨
    IsOrdinary old ∧ IsOrdinary new ∧
      (old.val < 0x10000 ↔ new.val < 0x10000)

instance (old new : CodePoint) : Decidable (Replaces old new) :=
  inferInstanceAs (Decidable (_ ∨ _))

theorem not_isOrdinary_of_mem_marks :
    ∀ mark ∈ marks, ¬ IsOrdinary mark.single := by
  decide +kernel

theorem IsOrdinary.mask_eq
    {c : CodePoint}
    (ordinary : IsOrdinary c)
    (basic : c.val < 0x10000) :
    mask (.ofNat c.val) = .ofChar 'a' := by
  have whole : ¬ (0xD800 ≤ c.val ∧ c.val ≤ 0xDFFF) := by
    rintro ⟨lower, upper⟩
    have hidden := CodePoint.isPrintable_eq_false_of_surrogate lower upper
    rw [ordinary.isPrintable_eq] at hidden
    cases hidden
  rcases mask_cases (.ofNat c.val) with
    ⟨high, _⟩ | ⟨low, _⟩ | ⟨isMark, _⟩ | ⟨_, _, _, same⟩
  · simp only [CodeUnit.isHigh, CodeUnit.val_ofNat basic, Bool.and_eq_true,
      decide_eq_true_eq] at high
    omega
  · simp only [CodeUnit.isLow, CodeUnit.val_ofNat basic, Bool.and_eq_true,
      decide_eq_true_eq] at low
    omega
  · have plain := not_isOrdinary_of_mem_marks _ isMark
    rw [Utf16.single_ofNat_val basic] at plain
    exact absurd ordinary plain
  · exact same

/-- Beyond the Basic Multilingual Plane characters are alike. -/
theorem map_mask_encodeOne_of_le
    {c : CodePoint}
    (beyond : 0x10000 ≤ c.val) :
    (Utf16.encodeOne c).map mask = [.ofNat 0xD800, .ofNat 0xDC00] := by
  have bound := c.isLt
  have high :
      (CodeUnit.ofNat (0xD800 + (c.val - 0x10000) / 0x400)).isHigh =
        true := by
    simp only [CodeUnit.isHigh, Bool.and_eq_true, decide_eq_true_eq]
    rw [CodeUnit.val_ofNat (by omega)]
    omega
  have low :
      (CodeUnit.ofNat (0xDC00 + (c.val - 0x10000) % 0x400)).isLow = true := by
    simp only [CodeUnit.isLow, Bool.and_eq_true, decide_eq_true_eq]
    rw [CodeUnit.val_ofNat (by omega)]
    omega
  rw [Utf16.encodeOne, if_neg (Nat.not_lt.mpr beyond), List.map_cons,
    List.map_singleton, mask, if_pos high, mask,
    if_neg (ne_true_of_eq_false (isHigh_eq_false_of_isLow low)), if_pos low]

theorem IsOrdinary.map_mask_encodeOne
    {c : CodePoint}
    (ordinary : IsOrdinary c) :
    (Utf16.encodeOne c).map mask =
      if c.val < 0x10000 then [.ofChar 'a']
      else [.ofNat 0xD800, .ofNat 0xDC00] := by
  split
  case isTrue basic =>
    rw [Utf16.encodeOne, if_pos basic, List.map_singleton,
      ordinary.mask_eq basic]
  case isFalse beyond =>
    exact map_mask_encodeOne_of_le (Nat.not_lt.mp beyond)

theorem map_mask_encode_eq
    {old new : Text}
    (replaces : List.Forall₂ Replaces old new) :
    (Utf16.encode old).map mask = (Utf16.encode new).map mask := by
  induction replaces with
  | nil => rfl
  | @cons first second old new here _ induction =>
      have one :
          (Utf16.encodeOne first).map mask =
            (Utf16.encodeOne second).map mask := by
        rcases here with rfl | ⟨ordinary, other, width⟩
        · rfl
        · rw [ordinary.map_mask_encodeOne, other.map_mask_encodeOne]
          simp only [width]
      rw [Utf16.encode_cons, Utf16.encode_cons, List.map_append,
        List.map_append, one, induction]

/--
Ordinary characters of a document can be replaced by others of the same width,
and every line still ends within a block comment if it did before.
-/
theorem openComment_colourLines_of_replaces
    {old new : Text}
    (replaces : List.Forall₂ Replaces old new)
    (inComment : Bool) :
    (colourLines inComment (linesOf (contentOf old))).map
        ColouredLine.openComment =
      (colourLines inComment (linesOf (contentOf new))).map
        ColouredLine.openComment := by
  have masked (text : Text) :
      (colourLines inComment (linesOf (contentOf text))).map
          ColouredLine.openComment =
        (colourLines inComment
          (linesOf (normalised ((Utf16.encode text).map mask)))).map
            ColouredLine.openComment := by
    rw [keepsMarks_mask.normalised_map, keepsMarks_mask.linesOf_map,
      keepsMarks_mask.openComment_colourLines, contentOf]
  rw [masked old, masked new, map_mask_encode_eq replaces]

/-- Letters and pictures around a string with a comment in it. -/
theorem openComment_colourLines_of_replaces_sample :
    let old :=
      CodePoint.ofNat 0x1F600 :: Text.ofString "\"a/*\"/*\n*/b\n"
    let new :=
      CodePoint.ofNat 0x20000 :: CodePoint.ofChar '"' ::
        CodePoint.ofNat 0x416 :: Text.ofString "/*\"/*\n*/ \n"
    List.Forall₂ Replaces old new ∧
      (colourLines false (linesOf (contentOf old))).map
          ColouredLine.openComment =
        [true, false, false] ∧
      (colourLines false (linesOf (contentOf new))).map
          ColouredLine.openComment =
        [true, false, false] := by
  intro old new
  have replaces : List.Forall₂ Replaces old new := by decide +kernel
  have states :
      (colourLines false (linesOf (contentOf old))).map
          ColouredLine.openComment =
        [true, false, false] := by
    decide +kernel
  exact
    ⟨replaces, states,
      (openComment_colourLines_of_replaces replaces false).symm.trans states⟩

/--
A picture in the place of a letter leaves the comment behind it open: the
closing mark is looked for one character too far on.
-/
theorem openComment_colourLines_wider :
    let old := Text.ofString "a/**/"
    let new := CodePoint.ofNat 0x1F600 :: Text.ofString "/**/"
    List.Forall₂
        (fun old new => old = new ∨ IsOrdinary old ∧ IsOrdinary new) old new ∧
      (colourLines false (linesOf (contentOf old))).map
          ColouredLine.openComment =
        [false] ∧
      (colourLines false (linesOf (contentOf new))).map
          ColouredLine.openComment =
        [true] := by
  decide +kernel

end Highlight

end ClauseEditor
