import ClauseEditor.Proofs.Text.Utf16
import ClauseEditor.Text.Blank
import ClauseEditor.Text.Mark

/-!
# What stripping takes away

Stripping takes a run of blank characters off each end of a text and leaves
the rest alone.  So a character that is not blank is never lost, and a text of
which a single character is left holds that character and blanks.

Blank characters are plain: each is a unit of its own, and no half of a pair.
So it makes no difference to what is left of the front of a text whether the
front is counted in units or in code points, if a plain character is left.

Marks are not blank, as the tables of the two have no code point in common.
-/

namespace ClauseEditor.CodePoint

theorem exists_range_of_within
    {c : CodePoint}
    {table : List (Nat × Nat)}
    (within : c.within table = true) :
    ∃ range ∈ table, range.1 ≤ c.val ∧ c.val ≤ range.2 := by
  induction table with
  | nil => cases within
  | cons range table induction =>
      rcases range with ⟨first, last⟩
      rw [CodePoint.within] at within
      split at within
      · cases within
      · split at within
        · exact ⟨(first, last), List.mem_cons_self, by omega, by assumption⟩
        · obtain ⟨range, listed, bounds⟩ := induction within
          exact ⟨range, List.mem_cons_of_mem _ listed, bounds⟩

/-- The ranges of two tables that lie apart have no code point in common. -/
theorem within_eq_false_of_apart
    {left right : List (Nat × Nat)}
    (apart :
      ∀ first ∈ left, ∀ second ∈ right,
        first.2 < second.1 ∨ second.2 < first.1)
    {c : CodePoint}
    (within : c.within left = true) :
    c.within right = false := by
  cases both : c.within right with
  | false => rfl
  | true =>
      obtain ⟨first, firstListed, firstBounds⟩ := exists_range_of_within within
      obtain ⟨second, secondListed, secondBounds⟩ :=
        exists_range_of_within both
      have order := apart first firstListed second secondListed
      omega

theorem isBlank_eq_false_of_attaches
    {c : CodePoint}
    (attaches : c.attaches = true) :
    c.isBlank = false := by
  have joiners : (CodePoint.ofNat 0x200C).isBlank = false ∧
      (CodePoint.ofNat 0x200D).isBlank = false := by decide
  simp only [CodePoint.attaches, Bool.or_eq_true, decide_eq_true_eq]
    at attaches
  rcases attaches with (value | value) | mark
  · rw [← ofNat_val c, value]
    exact joiners.1
  · rw [← ofNat_val c, value]
    exact joiners.2
  · exact within_eq_false_of_apart (by decide +kernel) mark

end ClauseEditor.CodePoint

namespace ClauseEditor.Text

theorem exists_eq_strip_around (text : Text) :
    ∃ front back : Text,
      isBlank front = true ∧ isBlank back = true ∧
        text = front ++ strip text ++ back := by
  have left :
      text = text.takeWhile CodePoint.isBlank ++ stripLeft text :=
    List.takeWhile_append_dropWhile.symm
  have right :
      stripLeft text =
        strip text ++
          ((stripLeft text).reverse.takeWhile CodePoint.isBlank).reverse := by
    rw [strip, stripRight, ← List.reverse_append,
      List.takeWhile_append_dropWhile, List.reverse_reverse]
  refine
    ⟨text.takeWhile CodePoint.isBlank,
      ((stripLeft text).reverse.takeWhile CodePoint.isBlank).reverse,
      List.all_takeWhile, ?_, ?_⟩
  · rw [isBlank, List.all_reverse]
    exact List.all_takeWhile
  · rw [List.append_assoc, ← right, ← left]

theorem strip_blank_append
    {run : Text}
    (blank : isBlank run = true)
    (text : Text) :
    strip (run ++ text) = strip text := by
  rw [strip, stripLeft,
    List.dropWhile_append_of_pos (List.all_eq_true.mp blank), strip, stripLeft]

variable {text : Text}

/-- A character that is not blank is not taken off. -/
theorem mem_strip
    {c : CodePoint}
    (member : c ∈ text)
    (visible : c.isBlank = false) :
    c ∈ strip text := by
  obtain ⟨front, back, frontBlank, backBlank, parts⟩ :=
    exists_eq_strip_around text
  have outside {run : Text} (runBlank : isBlank run = true) : c ∉ run := by
    intro listed
    rw [List.all_eq_true.mp runBlank c listed] at visible
    cases visible
  rw [parts, List.mem_append, List.mem_append] at member
  rcases member with (before | within) | after
  · exact absurd before (outside frontBlank)
  · exact within
  · exact absurd after (outside backBlank)

/-- Beside the character that is left there are blanks only. -/
theorem isBlank_or_eq_of_strip_eq
    {mark : CodePoint}
    (single : strip text = [mark])
    {c : CodePoint}
    (member : c ∈ text) :
    c.isBlank = true ∨ c = mark := by
  cases visible : c.isBlank with
  | true => exact Or.inl rfl
  | false =>
      have kept := mem_strip member visible
      rw [single, List.mem_singleton] at kept
      exact Or.inr kept

theorem isBlank_eq_false_of_strip_eq
    {mark : CodePoint}
    (single : strip text = [mark]) :
    isBlank text = false := by
  rw [Bool.eq_false_iff, Ne, ← strip_eq_nil_iff, single]
  exact List.cons_ne_nil mark []

theorem val_lt_of_isBlank
    {c : CodePoint}
    (isBlank : c.isBlank = true) :
    c.val < 0xD800 := by
  simp only [CodePoint.isBlank, CodePoint.within] at isBlank
  grind

theorem isPlain_of_isBlank
    (isBlank : Text.isBlank text = true) :
    Utf16.IsPlain text :=
  fun c member => val_lt_of_isBlank (List.all_eq_true.mp isBlank c member)

theorem isPlain_of_strip_eq
    {mark : CodePoint}
    (plain : mark.val < 0xD800)
    (single : strip text = [mark]) :
    Utf16.IsPlain text := by
  intro c member
  rcases isBlank_or_eq_of_strip_eq single member with blank | rfl
  · exact val_lt_of_isBlank blank
  · exact plain

/-- Both ways to count the front of a text leave the same single character. -/
theorem strip_take_decode_eq_iff
    {units : List CodeUnit}
    {count : Nat}
    (within : count ≤ units.length)
    {mark : CodePoint}
    (plain : mark.val < 0xD800) :
    strip ((Utf16.decode units).take count) = [mark] ↔
      strip (Utf16.decode (units.take count)) = [mark] := by
  constructor
  · intro single
    rwa [Utf16.decode_take_of_isPlain within (isPlain_of_strip_eq plain single)]
  · intro single
    rwa [Utf16.take_decode_of_isPlain within (isPlain_of_strip_eq plain single)]

end ClauseEditor.Text
