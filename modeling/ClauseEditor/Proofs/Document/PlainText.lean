import ClauseEditor.Document.Units
import ClauseEditor.Proofs.Text.Utf16
import ClauseEditor.Proofs.Text.Utf8

/-!
# A text that passes through a document

A document that is given a text with line feeds gives back a text of the same
length, in which a few characters have become others: line separators,
paragraph separators and the two noncharacters that frame a text are line
feeds, and no-break spaces are spaces.  All other characters are kept.
-/

namespace ClauseEditor.Document

/-- What a document makes of a character. -/
def plainCharacter (c : CodePoint) : CodePoint :=
  if c.val = 0x2028 ∨ c.val = 0x2029 ∨ c.val = 0xFDD0 ∨ c.val = 0xFDD1 then
    .ofChar '\n'
  else if c.val = 0xA0 then .ofChar ' '
  else c

theorem plainUnit_ofNat
    {c : CodePoint}
    (basic : c.val < 0x10000) :
    plainUnit (.ofNat c.val) = .ofNat (plainCharacter c).val := by
  rw [plainUnit, CodeUnit.val_ofNat basic, plainCharacter]
  split
  · rfl
  · split <;> rfl

/-- The units of a character become those of what it becomes. -/
theorem map_plainUnit_encodeOne (c : CodePoint) :
    (Utf16.encodeOne c).map plainUnit =
      Utf16.encodeOne (plainCharacter c) := by
  have bound := c.isLt
  rcases Nat.lt_or_ge c.val 0x10000 with basic | beyond
  · have stays : (plainCharacter c).val < 0x10000 := by
      rw [plainCharacter]
      split
      · decide
      · split
        · decide
        · exact basic
    rw [Utf16.encodeOne, Utf16.encodeOne, if_pos basic, if_pos stays,
      List.map_singleton, plainUnit_ofNat basic]
  · have same : plainCharacter c = c := by
      rw [plainCharacter, if_neg (by omega), if_neg (by omega)]
    have kept (n : Nat) (half : 0xD800 ≤ n ∧ n < 0xE000) :
        plainUnit (.ofNat n) = .ofNat n := by
      rw [plainUnit, CodeUnit.val_ofNat (by omega), if_neg (by omega),
        if_neg (by omega)]
    rw [same, Utf16.encodeOne, if_neg (by omega)]
    simp only [List.map_cons, List.map_nil]
    rw [kept _ (by omega), kept _ (by omega)]

theorem map_plainUnit_encode (text : Text) :
    (Utf16.encode text).map plainUnit =
      Utf16.encode (text.map plainCharacter) := by
  induction text with
  | nil => rfl
  | cons c text induction =>
      rw [Utf16.encode_cons, List.map_append, map_plainUnit_encodeOne,
        induction, List.map_cons, Utf16.encode_cons]

/-- Every line end but a carriage return is read as a separator is. -/
theorem plainUnit_of_endsLine
    {unit : CodeUnit}
    (ends : endsLine unit = true)
    (noReturn : unit.val ≠ 0x0D) :
    plainUnit unit = plainUnit separator := by
  have same : unit = .ofNat unit.val :=
    CodeUnit.ext (CodeUnit.val_ofNat unit.isLt).symm
  simp only [endsLine, Bool.or_eq_true, decide_eq_true_eq] at ends
  rcases ends with (((feed | carriage) | paragraph) | start) | stop
  · rw [same, feed]
    rfl
  · exact absurd carriage noReturn
  · rw [same, paragraph]
    rfl
  · rw [same, start]
    rfl
  · rw [same, stop]
    rfl

/-- Without carriage returns, a line end is a unit of its own. -/
theorem map_plainUnit_normalised
    {units : List CodeUnit}
    (noReturn : ∀ unit ∈ units, unit.val ≠ 0x0D) :
    (normalised units).map plainUnit = units.map plainUnit := by
  fun_induction normalised units with
  | case1 => rfl
  | case2 unit ends =>
      have plain := noReturn unit List.mem_cons_self
      rw [List.map_singleton, List.map_singleton,
        plainUnit_of_endsLine ends plain]
  | case3 => rfl
  | case4 unit next rest both =>
      exact absurd both.1 (noReturn unit List.mem_cons_self)
  | case5 unit next rest _ ends induction =>
      have plain := noReturn unit List.mem_cons_self
      rw [List.map_cons, List.map_cons, plainUnit_of_endsLine ends plain,
        induction fun other member =>
          noReturn other (List.mem_cons_of_mem unit member)]
  | case6 unit next rest _ _ induction =>
      exact congrArg (plainUnit unit :: ·)
        (induction fun other member =>
          noReturn other (List.mem_cons_of_mem unit member))

theorem isScalar_map_plainCharacter
    {text : Text}
    (scalar : Utf8.IsScalar text) :
    Utf8.IsScalar (text.map plainCharacter) := by
  intro c member
  rcases List.mem_map.mp member with ⟨before, inside, rfl⟩
  rw [plainCharacter]
  split
  · rfl
  · split
    · rfl
    · exact scalar before inside

/-- The unit of a carriage return stands for nothing else. -/
theorem val_ne_of_mem_encode
    {text : Text}
    (noReturn : CodePoint.ofChar '\r' ∉ text)
    {unit : CodeUnit}
    (member : unit ∈ Utf16.encode text) :
    unit.val ≠ 0x0D := by
  intro isReturn
  rcases List.mem_flatMap.mp member with ⟨c, inside, own⟩
  have bound := c.isLt
  rw [Utf16.encodeOne] at own
  split at own
  · rename_i basic
    rw [List.mem_singleton.mp own, CodeUnit.val_ofNat basic] at isReturn
    have same : c = CodePoint.ofChar '\r' := CodePoint.ext isReturn
    exact noReturn (same ▸ inside)
  · rcases List.mem_cons.mp own with rfl | own
    · rw [CodeUnit.val_ofNat (by omega)] at isReturn
      omega
    · rw [List.mem_singleton.mp own, CodeUnit.val_ofNat (by omega)] at isReturn
      omega

/-- What a document gives back of a text that it is given. -/
theorem plainText_contentOf
    {text : Text}
    (scalar : Utf8.IsScalar text)
    (noReturn : CodePoint.ofChar '\r' ∉ text) :
    plainText (contentOf text) = text.map plainCharacter := by
  rw [plainText, contentOf,
    map_plainUnit_normalised fun _ => val_ne_of_mem_encode noReturn,
    map_plainUnit_encode]
  apply Utf16.decode_encode
  intro c member
  exact Utf8.isSurrogate_eq_false_iff.mp
    (isScalar_map_plainCharacter scalar c member)

end ClauseEditor.Document
