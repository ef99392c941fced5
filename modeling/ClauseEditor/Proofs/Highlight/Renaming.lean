import Mathlib.Data.List.Forall2
import ClauseEditor.Proofs.Document.Lines
import ClauseEditor.Proofs.Highlight.Delimiters

/-!
# Renaming the units of a line

The scan for literals tells apart the units that literals are made of and the
halves of surrogate pairs.  A renaming that keeps these kinds, and no others,
leaves every literal where it was: its search counts units and code points,
and of both there are as many as before.
-/

namespace ClauseEditor.Highlight

open ClauseEditor.Scallop
open Document

/-- What literals are made of, and what ends a line. -/
def marks : List CodeUnit :=
  [.ofChar '"', .ofChar '\\', .ofChar '/', .ofChar '*', .ofNat 0x0A,
    .ofNat 0x0D, separator, .ofNat 0xFDD0, .ofNat 0xFDD1]

/-- A renaming that keeps marks and the halves of pairs apart from the rest. -/
structure KeepsMarks (rename : CodeUnit → CodeUnit) : Prop where
  isHigh_eq : ∀ unit, (rename unit).isHigh = unit.isHigh
  isLow_eq : ∀ unit, (rename unit).isLow = unit.isLow
  eq_iff : ∀ mark ∈ marks, ∀ unit, rename unit = mark ↔ unit = mark

/-! ## Texts with their comment marks in the same places -/

/-- Neither of the two is a star or a slash, or both are the same one. -/
structure SameMark (left right : CodePoint) : Prop where
  star_iff : left = Scallop.star ↔ right = Scallop.star
  slash_iff : left = slash ↔ right = slash

theorem indexOf?_eq_of_sameMarks
    {left right : Text}
    (same : List.Forall₂ SameMark left right) :
    left.indexOf? blockCommentEnd = right.indexOf? blockCommentEnd := by
  induction same with
  | nil => rfl
  | @cons first second left right here others induction =>
      have starts :
          Text.startsWith (first :: left) blockCommentEnd =
            Text.startsWith (second :: right) blockCommentEnd := by
        rw [Bool.eq_iff_iff]
        cases others with
        | nil =>
            simp [Text.startsWith, blockCommentEnd, List.isPrefixOf]
        | cons next _ =>
            simp only [Text.startsWith, blockCommentEnd, List.isPrefixOf,
              Bool.and_true, Bool.and_eq_true, beq_iff_eq,
              @eq_comm _ Scallop.star, @eq_comm _ slash, here.star_iff, next.slash_iff]
      rw [Text.indexOf?, Text.indexOf?, starts, induction]

theorem indexFrom?_eq_of_sameMarks
    {left right : Text}
    (same : List.Forall₂ SameMark left right)
    (start : Nat) :
    left.indexFrom? blockCommentEnd start =
      right.indexFrom? blockCommentEnd start := by
  rw [Text.indexFrom?, Text.indexFrom?, same.length_eq,
    indexOf?_eq_of_sameMarks (List.forall₂_drop start same)]

theorem sameMark_of_le
    {left right : CodePoint}
    (leftBeyond : 0x10000 ≤ left.val)
    (rightBeyond : 0x10000 ≤ right.val) :
    SameMark left right := by
  have ne {c : CodePoint} (beyond : 0x10000 ≤ c.val) :
      c ≠ Scallop.star ∧ c ≠ slash := by
    constructor <;>
      · rintro rfl
        exact absurd beyond (by decide)
  constructor
  · exact iff_of_false (ne leftBeyond).1 (ne rightBeyond).1
  · exact iff_of_false (ne leftBeyond).2 (ne rightBeyond).2

/-- A pair of surrogates is a character beyond the Basic Multilingual Plane. -/
theorem le_val_joined
    {high low : CodeUnit}
    (isHigh : high.isHigh = true)
    (isLow : low.isLow = true) :
    0x10000 ≤ (CodeUnit.joined high low).val := by
  simp only [CodeUnit.isHigh, CodeUnit.isLow, Bool.and_eq_true,
    decide_eq_true_eq] at isHigh isLow
  rw [CodeUnit.joined, CodePoint.val_ofNat (by omega)]
  omega

/-! ## Renaming a line -/

section Line

variable
    {rename : CodeUnit → CodeUnit}
    (keeps : KeepsMarks rename)

include keeps

theorem KeepsMarks.isWellFormed_map (units : List CodeUnit) :
    Utf16.isWellFormed (units.map rename) = Utf16.isWellFormed units := by
  fun_induction Utf16.isWellFormed units with
  | case1 => rfl
  | case2 unit =>
      rw [List.map_singleton, Utf16.isWellFormed, keeps.isHigh_eq,
        keeps.isLow_eq]
  | case3 first second rest high induction =>
      rw [List.map_cons, List.map_cons, Utf16.isWellFormed, keeps.isHigh_eq,
        if_pos high, keeps.isLow_eq, induction]
  | case4 first second rest high induction =>
      rw [List.map_cons, List.map_cons, Utf16.isWellFormed, keeps.isHigh_eq,
        if_neg high, keeps.isLow_eq, ← List.map_cons, induction]

theorem KeepsMarks.sameMark_single (unit : CodeUnit) :
    SameMark unit.single (rename unit).single := by
  constructor
  · rw [Scallop.star, ← Utf16.single_ofChar (by decide),
      Utf16.single_injective.eq_iff, Utf16.single_injective.eq_iff,
      keeps.eq_iff _ (by decide)]
  · rw [single_eq_slash, single_eq_slash, keeps.eq_iff _ (by decide)]

/-- Stars and slashes stand in the same places of both texts. -/
theorem KeepsMarks.decode_map (units : List CodeUnit) :
    List.Forall₂ SameMark (Utf16.decode units)
      (Utf16.decode (units.map rename)) := by
  fun_induction Utf16.decode units with
  | case1 => exact .nil
  | case2 unit => exact .cons (keeps.sameMark_single unit) .nil
  | case3 high low rest pair induction =>
      have renamed : ((rename high).isHigh && (rename low).isLow) = true := by
        rwa [keeps.isHigh_eq, keeps.isLow_eq]
      rw [List.map_cons, List.map_cons, Utf16.decode, if_pos renamed]
      have halves := Bool.and_eq_true_iff.mp pair
      have renamedHalves := Bool.and_eq_true_iff.mp renamed
      exact
        .cons
          (sameMark_of_le (le_val_joined halves.1 halves.2)
            (le_val_joined renamedHalves.1 renamedHalves.2))
          induction
  | case4 first second rest unpaired induction =>
      have renamed :
          ¬ ((rename first).isHigh && (rename second).isLow) = true := by
        rwa [keeps.isHigh_eq, keeps.isLow_eq]
      rw [List.map_cons, List.map_cons, Utf16.decode, if_neg renamed,
        ← List.map_cons]
      exact .cons (keeps.sameMark_single first) induction

theorem KeepsMarks.head?_map_iff
    {mark : CodeUnit}
    (isMark : mark ∈ marks)
    (units : List CodeUnit) :
    (units.map rename).head? = some mark ↔ units.head? = some mark := by
  rw [List.head?_map]
  cases units.head? with
  | none => exact Iff.rfl
  | some unit =>
      rw [Option.map_some, Option.some.injEq, Option.some.injEq]
      exact keeps.eq_iff mark isMark unit

theorem KeepsMarks.isPrefixOf_map
    {opening : List CodeUnit}
    (areMarks : ∀ mark ∈ opening, mark ∈ marks)
    (units : List CodeUnit) :
    opening.isPrefixOf (units.map rename) = opening.isPrefixOf units := by
  induction opening generalizing units with
  | nil => simp
  | cons mark opening induction =>
      rw [List.forall_mem_cons] at areMarks
      cases units with
      | nil => rfl
      | cons unit units =>
          have here : (mark == rename unit) = (mark == unit) := by
            rw [Bool.eq_iff_iff, beq_iff_eq, beq_iff_eq, eq_comm,
              keeps.eq_iff mark areMarks.1 unit, eq_comm]
          rw [List.map_cons, List.isPrefixOf, List.isPrefixOf, here,
            induction areMarks.2]

theorem KeepsMarks.stringRest_map (units : List CodeUnit) :
    stringRest (units.map rename) = stringRest units := by
  have quote := keeps.eq_iff (.ofChar '"') (by decide)
  have backslash := keeps.eq_iff (.ofChar '\\') (by decide)
  fun_induction stringRest units with
  | case1 => rfl
  | case2 => simp [stringRest, backslash]
  | case3 unit other => simp [stringRest, backslash, other]
  | case4 next rest => simp [stringRest, quote]
  | case5 next rest notQuote induction =>
      simp [stringRest, quote, backslash, notQuote, induction]
  | case6 unit next rest notQuote other induction =>
      rw [List.map_cons] at induction
      simp [stringRest, quote, backslash, notQuote, other, induction]

theorem KeepsMarks.opener?_map (units : List CodeUnit) :
    opener? (units.map rename) = opener? units := by
  have length (count : Nat) :
      (Utf16.decode ((units.map rename).take count)).length =
        (Utf16.decode (units.take count)).length := by
    rw [← List.map_take]
    exact (keeps.decode_map _).length_eq.symm
  have quote := keeps.head?_map_iff (List.mem_cons_self) units
  rw [opener?, opener?, ← List.map_drop, keeps.stringRest_map,
    keeps.isPrefixOf_map (by decide), keeps.isPrefixOf_map (by decide)]
  simp only [quote, length]

theorem KeepsMarks.firstOpener?_map (units : List CodeUnit) :
    firstOpener? (units.map rename) = firstOpener? units := by
  induction units with
  | nil => rfl
  | cons unit units induction =>
      have here := keeps.opener?_map (unit :: units)
      rw [List.map_cons] at here
      rw [List.map_cons, firstOpener?, firstOpener?, here, induction]

/-- The scan of a renamed line goes as before. -/
theorem KeepsMarks.literalsFrom_map
    {text other : Text}
    (same : List.Forall₂ SameMark text other)
    (units : List CodeUnit)
    (position : Nat) :
    literalsFrom other (units.map rename) position =
      literalsFrom text units position := by
  induction left : text.length - position using Nat.strongRecOn
    generalizing position with
  | ind left induction =>
      have length := same.length_eq
      rcases Nat.lt_or_ge position text.length with inside | behind
      · have further {next : Nat} (later : position < next) :
            literalsFrom other (units.map rename) next =
              literalsFrom text units next :=
          induction _ (by omega) next rfl
        rw [literalsFrom_eq_elim (by omega), literalsFrom_eq_elim inside,
          ← List.map_drop, keeps.isWellFormed_map, keeps.firstOpener?_map]
        cases
            if Utf16.isWellFormed (units.drop position) then
              firstOpener? (units.drop position)
            else none with
        | none => rfl
        | some found =>
            rcases found with ⟨offset, opener⟩
            rw [Option.elim_some, Option.elim_some]
            cases opener with
            | lineComment => rw [literalsBehind, literalsBehind, length]
            | string width =>
                rw [literalsBehind, literalsBehind, further (by omega)]
            | blockComment =>
                rw [literalsBehind, literalsBehind,
                  indexFrom?_eq_of_sameMarks same, length]
                cases closes :
                    other.indexFrom? blockCommentEnd
                      (position + offset + 2) with
                | none => rfl
                | some close =>
                    have behind := le_of_indexFrom? closes
                    dsimp only
                    rw [further (by omega)]
      · rw [literalsFrom_of_length_le (by omega),
          literalsFrom_of_length_le behind]

theorem KeepsMarks.literals_map (inComment : Bool) (units : List CodeUnit) :
    literals inComment (units.map rename) = literals inComment units := by
  have same := keeps.decode_map units
  rw [literals, literals]
  rw [keeps.literalsFrom_map same, ← indexOf?_eq_of_sameMarks same,
    same.length_eq]
  simp only [keeps.literalsFrom_map same]

end Line

/-! ## Renaming a document -/

section Lines

variable
    {rename : CodeUnit → CodeUnit}
    (keeps : KeepsMarks rename)

include keeps

theorem KeepsMarks.val_eq_iff
    {n : Nat}
    (isMark : CodeUnit.ofNat n ∈ marks)
    (bound : n < 0x10000)
    (unit : CodeUnit) :
    (rename unit).val = n ↔ unit.val = n := by
  have same := keeps.eq_iff (.ofNat n) isMark unit
  rwa [CodeUnit.ext_iff, CodeUnit.ext_iff, CodeUnit.val_ofNat bound] at same

theorem KeepsMarks.endsLine_eq (unit : CodeUnit) :
    endsLine (rename unit) = endsLine unit := by
  have same
      {n : Nat}
      (isMark : CodeUnit.ofNat n ∈ marks)
      (bound : n < 0x10000) :
      decide ((rename unit).val = n) = decide (unit.val = n) :=
    decide_eq_decide.mpr (keeps.val_eq_iff isMark bound unit)
  rw [endsLine, endsLine, same (by decide) (by decide),
    same (by decide) (by decide), same (by decide) (by decide),
    same (by decide) (by decide), same (by decide) (by decide)]

/-- A carriage return with a line feed behind it stays one. -/
theorem KeepsMarks.feeds_iff (unit next : CodeUnit) :
    (rename unit).val = 0x0D ∧ (rename next).val = 0x0A ↔
      unit.val = 0x0D ∧ next.val = 0x0A := by
  rw [keeps.val_eq_iff (by decide) (by decide),
    keeps.val_eq_iff (by decide) (by decide)]

theorem KeepsMarks.rename_separator : rename separator = separator :=
  (keeps.eq_iff separator (by decide) separator).mpr rfl

theorem KeepsMarks.normalised_map (units : List CodeUnit) :
    normalised (units.map rename) = (normalised units).map rename := by
  fun_induction normalised units with
  | case1 => rfl
  | case2 unit ends =>
      rw [List.map_singleton, normalised, keeps.endsLine_eq, if_pos ends,
        List.map_singleton, keeps.rename_separator]
  | case3 unit ends =>
      rw [List.map_singleton, normalised, keeps.endsLine_eq, if_neg ends]
  | case4 unit next rest feeds induction =>
      rw [List.map_cons, List.map_cons, normalised,
        if_pos ((keeps.feeds_iff unit next).mpr feeds), induction,
        List.map_cons, keeps.rename_separator]
  | case5 unit next rest alone ends induction =>
      rw [List.map_cons, List.map_cons, normalised,
        if_neg (mt (keeps.feeds_iff unit next).mp alone), keeps.endsLine_eq,
        if_pos ends, ← List.map_cons, induction, List.map_cons,
        keeps.rename_separator]
  | case6 unit next rest alone ends induction =>
      rw [List.map_cons, List.map_cons, normalised,
        if_neg (mt (keeps.feeds_iff unit next).mp alone), keeps.endsLine_eq,
        if_neg ends, ← List.map_cons, induction, List.map_cons]

theorem KeepsMarks.linesOf_map (content : List CodeUnit) :
    linesOf (content.map rename) =
      (linesOf content).map (List.map rename) := by
  induction content with
  | nil => rfl
  | cons unit content induction =>
      rw [List.map_cons, linesOf, linesOf, induction]
      simp only [keeps.eq_iff separator (by decide)]
      split
      · rfl
      · cases linesOf content with
        | nil => rfl
        | cons line lines => rfl

/-- Lines one after another leave the same comments open. -/
theorem KeepsMarks.openComment_colourLines
    (inComment : Bool)
    (lines : List (List CodeUnit)) :
    (colourLines inComment (lines.map (List.map rename))).map
        ColouredLine.openComment =
      (colourLines inComment lines).map ColouredLine.openComment := by
  induction lines generalizing inComment with
  | nil => rfl
  | cons line lines induction =>
      have here :
          (colourLine inComment (line.map rename)).openComment =
            (colourLine inComment line).openComment :=
        congrArg Literals.openComment (keeps.literals_map inComment line)
      rw [List.map_cons, colourLines, colourLines, List.map_cons,
        List.map_cons, here, induction]

end Lines

end ClauseEditor.Highlight
