import ClauseEditor.Commenting

/-!
# Comments come off again

A mark that starts with a character that is not blank is found first where it
was put in, if no more than the leading blank characters of the line stand
before it.  So the line without its first mark and one space after that is the
line that was commented out, and lines that were commented out together come
back together.

Commenting a line out adds characters to it in one place, and uncommenting it
takes some away in one place.
-/

namespace ClauseEditor

/-- The text starts with a character that is not blank. -/
def Text.StartsVisibly (text : Text) : Prop :=
  ∃ c ∈ text.head?, c.isBlank = false

namespace Commenting

/-! ## The depth of a line -/

theorem blanks_append_stripLeft (line : Text) :
    line.takeWhile CodePoint.isBlank ++ Text.stripLeft line = line :=
  List.takeWhile_append_dropWhile

theorem depth_eq (line : Text) :
    depth line = (line.takeWhile CodePoint.isBlank).length := by
  have whole := congrArg List.length (blanks_append_stripLeft line)
  rw [List.length_append] at whole
  rw [depth]
  omega

theorem depth_le_length (line : Text) : depth line ≤ line.length :=
  Nat.sub_le _ _

/-- Only blank characters stand before a position that is not too deep. -/
theorem isBlank_take
    {line : Text}
    {position : Nat}
    (shallow : position ≤ depth line) :
    Text.isBlank (line.take position) = true := by
  have leading :
      line.take position =
        (line.takeWhile CodePoint.isBlank).take position := by
    rw [depth_eq] at shallow
    conv =>
      lhs
      rw [← blanks_append_stripLeft line,
        List.take_append_of_le_length shallow]
  rw [leading, Text.isBlank, List.all_eq_true]
  intro c member
  exact List.all_eq_true.mp List.all_takeWhile c (List.mem_of_mem_take member)

/-! ## One line -/

section Line

variable
    {mark : Text}
    (visible : mark.StartsVisibly)

include visible

/-- The mark is found behind blank characters. -/
theorem indexOf?_append
    {blanks : Text}
    (isBlank : Text.isBlank blanks = true)
    (rest : Text) :
    Text.indexOf? (blanks ++ (mark ++ rest)) mark = some blanks.length := by
  rcases visible with ⟨first, starts, firstVisible⟩
  rcases List.head?_eq_some_iff.mp starts with ⟨others, rfl⟩
  induction blanks with
  | nil =>
      rw [List.nil_append, List.cons_append, Text.indexOf?, if_pos]
      · rfl
      · exact List.isPrefixOf_iff_prefix.mpr
          (List.prefix_append (first :: others) rest)
  | cons blank blanks induction =>
      rw [Text.isBlank, List.all_cons, Bool.and_eq_true] at isBlank
      have different : ¬ first = blank := by
        rintro rfl
        exact Bool.false_ne_true (firstVisible.symm.trans isBlank.1)
      rw [List.cons_append, Text.indexOf?, if_neg, induction isBlank.2]
      · rfl
      · simp [Text.startsWith, List.isPrefixOf, different]

theorem stripLeft_append
    {blanks : Text}
    (isBlank : Text.isBlank blanks = true)
    (rest : Text) :
    Text.stripLeft (blanks ++ (mark ++ rest)) = mark ++ rest := by
  rcases visible with ⟨first, starts, firstVisible⟩
  rcases List.head?_eq_some_iff.mp starts with ⟨others, rfl⟩
  rw [Text.stripLeft, List.dropWhile_append_of_pos
    (List.all_eq_true.mp isBlank), List.cons_append,
    List.dropWhile_cons_of_neg (ne_true_of_eq_false firstVisible)]

variable
    {line : Text}
    {position : Nat}

theorem isCommented_comment (shallow : position ≤ depth line) :
    isCommented mark (comment mark position line) = true := by
  rw [isCommented, comment, List.append_assoc, List.append_assoc,
    stripLeft_append visible (isBlank_take shallow)]
  exact List.isPrefixOf_iff_prefix.mpr (List.prefix_append mark _)

theorem isBlank_comment (line : Text) (position : Nat) :
    Text.isBlank (comment mark position line) = false := by
  rcases visible with ⟨first, starts, firstVisible⟩
  have present : first ∈ comment mark position line := by
    rw [comment]
    simp [List.mem_of_mem_head? starts]
  rw [Text.isBlank, List.all_eq_false]
  exact ⟨first, present, ne_true_of_eq_false firstVisible⟩

/-- A line that was commented out comes back. -/
theorem uncomment_comment (shallow : position ≤ depth line) :
    uncomment mark (comment mark position line) = line := by
  have inside := Nat.le_trans shallow (depth_le_length line)
  have width : (line.take position).length = position :=
    List.length_take_of_le inside
  have found :
      (comment mark position line).indexOf? mark = some position := by
    rw [comment, List.append_assoc, List.append_assoc,
      indexOf?_append visible (isBlank_take shallow), width]
  have behind :
      (comment mark position line).drop (position + mark.length) =
        Text.ofString " " ++ line.drop position := by
    have front : (line.take position ++ mark).length =
        position + mark.length := by
      rw [List.length_append, width]
    rw [comment, List.append_assoc, ← front, List.drop_left]
  have before : (comment mark position line).take position =
      line.take position := by
    rw [comment, List.append_assoc, List.append_assoc,
      List.take_append_of_le_length (Nat.le_of_eq width.symm), List.take_take,
      Nat.min_self]
  rw [uncomment, found]
  dsimp only
  rw [behind, if_pos, before]
  · exact List.take_append_drop position line
  · exact List.isPrefixOf_iff_prefix.mpr (List.prefix_append _ _)

end Line

/-! ## Lines together -/

theorem length_toggle (mark : Text) (lines : List Text) :
    (toggle mark lines).length = lines.length := by
  rw [toggle]
  split <;> exact List.length_map _

theorem min?_getD_le
    {numbers : List Nat}
    {number : Nat}
    (listed : number ∈ numbers) :
    numbers.min?.getD 0 ≤ number := by
  cases least : numbers.min? with
  | none => exact Nat.zero_le _
  | some value => exact (List.min?_eq_some_iff.mp least).2 number listed

/-- The position at which lines are commented out together. -/
def commentPosition (lines : List Text) : Nat :=
  (((lines.filter fun line => !Text.isBlank line).map depth).min?).getD 0

theorem commentPosition_le
    {lines : List Text}
    {line : Text}
    (listed : line ∈ lines)
    (visible : Text.isBlank line = false) :
    commentPosition lines ≤ depth line := by
  refine min?_getD_le (List.mem_map_of_mem ?_)
  exact List.mem_filter.mpr ⟨listed, by simp [visible]⟩

/-- Every line that is not blank is a comment. -/
def AllCommented (mark : Text) (lines : List Text) : Prop :=
  ∀ line ∈ lines, Text.isBlank line = false → isCommented mark line = true

theorem all_isCommented_iff {mark : Text} {lines : List Text} :
    (lines.filter fun line => !Text.isBlank line).all (isCommented mark) =
        true ↔
      AllCommented mark lines := by
  simp only [List.all_eq_true, List.mem_filter, AllCommented,
    Bool.not_eq_true', and_imp]

theorem toggle_of_allCommented
    {mark : Text}
    {lines : List Text}
    (all : AllCommented mark lines) :
    toggle mark lines = onContent (uncomment mark) lines :=
  if_pos (all_isCommented_iff.mpr all)

theorem toggle_of_not_allCommented
    {mark : Text}
    {lines : List Text}
    (remaining : ¬ AllCommented mark lines) :
    toggle mark lines =
      onContent (comment mark (commentPosition lines)) lines :=
  if_neg fun all => remaining (all_isCommented_iff.mp all)

/-- Lines that were commented out together are all comments. -/
theorem allCommented_onContent_comment
    {mark : Text}
    (visible : mark.StartsVisibly)
    (lines : List Text) :
    AllCommented mark
      (onContent (comment mark (commentPosition lines)) lines) := by
  intro line listed lineVisible
  rcases List.mem_map.mp listed with ⟨old, oldListed, rfl⟩
  split at lineVisible
  · rename_i blank
    exact absurd blank (ne_true_of_eq_false lineVisible)
  · rename_i oldVisible
    rw [if_neg oldVisible]
    exact isCommented_comment visible
      (commentPosition_le oldListed (Bool.eq_false_iff.mpr oldVisible))

/-- Lines that are not all comments come back together. -/
theorem toggle_toggle
    {mark : Text}
    (visible : mark.StartsVisibly)
    {lines : List Text}
    (remaining : ¬ AllCommented mark lines) :
    toggle mark (toggle mark lines) = lines := by
  rw [toggle_of_not_allCommented remaining,
    toggle_of_allCommented (allCommented_onContent_comment visible lines),
    onContent, onContent, List.map_map]
  conv =>
    rhs
    rw [← List.map_id lines]
  apply List.map_congr_left
  intro line listed
  rw [Function.comp_apply, id]
  by_cases blank : Text.isBlank line = true
  · rw [if_pos blank, if_pos blank]
  · rw [if_neg blank,
      if_neg (ne_true_of_eq_false (isBlank_comment visible line _))]
    exact uncomment_comment visible
      (commentPosition_le listed (Bool.eq_false_iff.mpr blank))

theorem not_allCommented_iff {mark : Text} {lines : List Text} :
    ¬ AllCommented mark lines ↔
      ∃ line ∈ lines,
        Text.isBlank line = false ∧ isCommented mark line = false := by
  simp only [AllCommented, Classical.not_forall, Bool.not_eq_true, exists_prop]

theorem allCommented_of_isBlank
    {lines : List Text}
    (blank : ∀ line ∈ lines, Text.isBlank line = true)
    (mark : Text) :
    AllCommented mark lines := by
  intro line listed visible
  exact absurd (blank line listed) (ne_true_of_eq_false visible)

theorem onContent_of_isBlank
    {lines : List Text}
    (blank : ∀ line ∈ lines, Text.isBlank line = true)
    (change : Text → Text) :
    onContent change lines = lines := by
  have same : ∀ line ∈ lines,
      (if Text.isBlank line then line else change line) = id line := by
    intro line listed
    exact if_pos (blank line listed)
  exact (List.map_congr_left same).trans (List.map_id lines)

/-- Toggling leaves blank lines alone. -/
theorem toggle_of_isBlank
    {lines : List Text}
    (blank : ∀ line ∈ lines, Text.isBlank line = true)
    (mark : Text) :
    toggle mark lines = lines := by
  rw [toggle_of_allCommented (allCommented_of_isBlank blank mark),
    onContent_of_isBlank blank]

/-- Toggling lines that are not all comments makes comments of them all. -/
theorem allCommented_toggle
    {mark : Text}
    (visible : mark.StartsVisibly)
    {lines : List Text}
    (remaining : ¬ AllCommented mark lines) :
    AllCommented mark (toggle mark lines) := by
  rw [toggle_of_not_allCommented remaining]
  exact allCommented_onContent_comment visible lines

/--
Toggling twice gives back lines that are not all comments, and lines that are
all blank; in between every line that is not blank is a comment.
-/
theorem toggle_restores
    {mark : Text}
    (visible : mark.StartsVisibly)
    {lines : List Text}
    (remaining :
      (∃ line ∈ lines,
          Text.isBlank line = false ∧ isCommented mark line = false) ∨
        ∀ line ∈ lines, Text.isBlank line = true) :
    AllCommented mark (toggle mark lines) ∧
      toggle mark (toggle mark lines) = lines := by
  rcases remaining with uncommented | blank
  · have notAll := not_allCommented_iff.mpr uncommented
    exact ⟨allCommented_toggle visible notAll, toggle_toggle visible notAll⟩
  · have same := toggle_of_isBlank blank mark
    rw [same, same]
    exact ⟨allCommented_of_isBlank blank mark, rfl⟩

/-- A tab, an ideographic space and a line that was a comment before. -/
theorem toggle_restores_sample :
    toggle (Text.ofString "//")
        (["\t a", "", "  // b", "\u3000c"].map Text.ofString) =
      ["\t//  a", "", " //  // b", "\u3000// c"].map Text.ofString ∧
    toggle (Text.ofString "//")
        (["\t//  a", "", " //  // b", "\u3000// c"].map Text.ofString) =
      ["\t a", "", "  // b", "\u3000c"].map Text.ofString := by
  have visible : (Text.ofString "//").StartsVisibly :=
    ⟨CodePoint.ofChar '/', rfl, by decide⟩
  have remaining :
      ∃ line ∈ ["\t a", "", "  // b", "\u3000c"].map Text.ofString,
        Text.isBlank line = false ∧
          isCommented (Text.ofString "//") line = false :=
    ⟨Text.ofString "\t a", by decide, by decide, by decide⟩
  have commented :
      toggle (Text.ofString "//")
          (["\t a", "", "  // b", "\u3000c"].map Text.ofString) =
        ["\t//  a", "", " //  // b", "\u3000// c"].map Text.ofString := by
    decide +kernel
  have back := (toggle_restores visible (.inl remaining)).2
  rw [commented] at back
  exact ⟨commented, back⟩

/-! ## What is added and taken away -/

/-- Commenting a line out adds the mark and a space in one place. -/
theorem exists_comment_eq (mark line : Text) (position : Nat) :
    ∃ before behind,
      line = before ++ behind ∧
        comment mark position line =
          before ++ (mark ++ Text.ofString " ") ++ behind :=
  ⟨line.take position, line.drop position,
    (List.take_append_drop position line).symm, by simp [comment]⟩

/-- Uncommenting a line takes characters away in one place, if any. -/
theorem exists_uncomment_eq (mark line : Text) :
    ∃ before removed behind,
      line = before ++ removed ++ behind ∧
        uncomment mark line = before ++ behind := by
  have parted (first width : Nat) :
      line =
        line.take first ++ (line.drop first).take width ++
          line.drop (first + width) := by
    rw [List.append_assoc, ← List.drop_drop, List.take_append_drop,
      List.take_append_drop]
  rw [uncomment]
  cases line.indexOf? mark with
  | none => exact ⟨line, [], [], by simp, by simp⟩
  | some position =>
      dsimp only
      split
      · refine ⟨_, _, _, parted position (mark.length + 1), ?_⟩
        rw [List.drop_drop, Nat.add_assoc]
      · exact ⟨_, _, _, parted position mark.length, rfl⟩

end Commenting

end ClauseEditor
