import ClauseEditor.Text.CodePoint

/-!
# Blank characters and stripping

Blank characters are the Unicode white space characters together with the
four information separators U+001C to U+001F.  The zero width space and the
byte order mark are not blank.
-/

namespace ClauseEditor

/-- White space, the information separators included. -/
def CodePoint.isBlank (c : CodePoint) : Bool :=
  c.within [(0x09, 0x0D), (0x1C, 0x20), (0x85, 0x85), (0xA0, 0xA0),
    (0x1680, 0x1680), (0x2000, 0x200A), (0x2028, 0x2029), (0x202F, 0x202F),
    (0x205F, 0x205F), (0x3000, 0x3000)]

namespace Text

/-- The text from its first character on that is not blank. -/
def stripLeft (text : Text) : Text :=
  text.dropWhile CodePoint.isBlank

/-- The text up to its last character that is not blank. -/
def stripRight (text : Text) : Text :=
  (text.reverse.dropWhile CodePoint.isBlank).reverse

/-- The text without the blank characters at its two ends. -/
def strip (text : Text) : Text :=
  stripRight (stripLeft text)

/-- Holds no character but blank ones. -/
def isBlank (text : Text) : Bool :=
  text.all CodePoint.isBlank

theorem stripLeft_eq_nil_iff
    {text : Text} :
    stripLeft text = [] ↔ isBlank text = true := by
  induction text with
  | nil => simp [stripLeft, isBlank]
  | cons c rest induction =>
      simp only [stripLeft, isBlank] at induction
      by_cases blank : c.isBlank = true <;>
        simp [stripLeft, isBlank, blank, induction]

theorem isBlank_stripLeft (text : Text) :
    isBlank (stripLeft text) = isBlank text := by
  have leading : isBlank (text.takeWhile CodePoint.isBlank) = true :=
    List.all_takeWhile
  conv =>
    rhs
    rw [← List.takeWhile_append_dropWhile (p := CodePoint.isBlank) (l := text),
      isBlank, List.all_append]
  rw [isBlank] at leading
  rw [leading, Bool.true_and]
  rfl

theorem stripRight_eq_nil_iff
    {text : Text} :
    stripRight text = [] ↔ isBlank text = true := by
  rw [stripRight, List.reverse_eq_nil_iff, ← stripLeft, stripLeft_eq_nil_iff,
    isBlank, List.all_reverse, isBlank]

/-- Stripping leaves nothing of a blank text and something of any other. -/
theorem strip_eq_nil_iff
    {text : Text} :
    strip text = [] ↔ isBlank text = true := by
  rw [strip, stripRight_eq_nil_iff, isBlank_stripLeft]

end Text

end ClauseEditor
