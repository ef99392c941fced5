import ClauseEditor.Proofs.Editor.Typing

/-!
# What keys put in

A character key puts its character in the place of the selection and leaves
the cursor behind it.  A closing bracket that is next to the cursor is stepped
over together with the marks that are attached to it.
-/

namespace ClauseEditor.Editor

open Document

/-! ## Stepping over a character -/

section Characters

variable
    {content : List CodeUnit}
    {position : Nat}

/-- The text of some units up to the first line end. -/
def firstLine (units : List CodeUnit) : Text :=
  Utf16.decode (units.takeWhile (· ≠ separator))

theorem firstLine_cons
    {unit : CodeUnit}
    (inLine : unit ≠ separator)
    (single : unit.isHigh = false)
    (rest : List CodeUnit) :
    firstLine (unit :: rest) = unit.single :: firstLine rest := by
  rw [firstLine, List.takeWhile_cons_of_pos (by simpa using inLine),
    Utf16.decode_cons_of_not_isHigh single, firstLine]

variable
    {c : CodePoint}
    {others : Text}
    (follows : firstLine (content.drop position) = c :: others)

include follows

theorem characterAfter_eq :
    characterAfter content position =
      position +
        (Utf16.encode (c :: others.takeWhile CodePoint.attaches)).length := by
  rw [firstLine] at follows
  rw [characterAfter]
  cases next : content.drop position with
  | nil =>
      rw [next] at follows
      cases follows
  | cons unit rest =>
      rw [next] at follows
      dsimp only
      split
      · rename_i ends
        rw [List.takeWhile_cons_of_neg (by simpa using ends)] at follows
        cases follows
      · rw [follows]

/-- The units of the character and its marks come next. -/
theorem encode_prefix_takeWhile :
    Utf16.encode (c :: others.takeWhile CodePoint.attaches) <+:
      (content.drop position).takeWhile (· ≠ separator) := by
  have units := Utf16.encode_decode
    ((content.drop position).takeWhile (· ≠ separator))
  rw [← firstLine, follows,
    ← List.takeWhile_append_dropWhile (p := CodePoint.attaches) (l := others),
    ← List.cons_append, Utf16.encode_append] at units
  rw [← units]
  exact List.prefix_append _ _

theorem take_characterAfter :
    content.take (characterAfter content position) =
      content.take position ++
        Utf16.encode (c :: others.takeWhile CodePoint.attaches) := by
  obtain ⟨rest, parts⟩ :=
    (encode_prefix_takeWhile follows).trans (List.takeWhile_prefix _)
  rw [characterAfter_eq follows, List.take_add, ← parts, List.take_left]

/-- What is stepped over ends no line. -/
theorem separator_notMem_encode :
    separator ∉ Utf16.encode (c :: others.takeWhile CodePoint.attaches) := by
  intro member
  have kept := (encode_prefix_takeWhile follows).subset member
  have differs := List.all_eq_true.mp List.all_takeWhile separator kept
  exact of_decide_eq_true differs rfl

end Characters

/-! ## Putting a character in -/

/-- A surrogate is no line end. -/
theorem endsLine_ofNat_of_surrogate
    {n : Nat}
    (least : 0xD800 ≤ n)
    (below : n < 0xE000) :
    endsLine (.ofNat n) = false := by
  rw [endsLine, CodeUnit.val_ofNat (by omega)]
  simp only [Bool.or_eq_false_iff, decide_eq_false_iff_not]
  omega

section InLine

variable
    {c : CodePoint}
    (typed : isTyped c false = true)
    (inLine : c.val ≠ 0x2029)

include typed inLine

/-- Keys put in no line ends but the paragraph separator. -/
theorem endsLine_eq_false_of_isTyped :
    ∀ unit ∈ Utf16.encode [c], endsLine unit = false := by
  intro unit member
  rw [Utf16.encode_cons, Utf16.encodeOne] at member
  split at member
  · rename_i plain
    have untyped :
        ∀ n ∈ [0x0A, 0x0D, 0xFDD0, 0xFDD1],
          isTyped (CodePoint.ofNat n) false = false := by decide +kernel
    have other {n : Nat} (listed : n ∈ [0x0A, 0x0D, 0xFDD0, 0xFDD1]) :
        c.val ≠ n := by
      rintro rfl
      rw [← CodePoint.ofNat_val c, untyped _ listed] at typed
      cases typed
    rw [List.mem_singleton.mp member, endsLine, CodeUnit.val_ofNat plain]
    simp [other, inLine]
  · have inside := c.isLt
    simp only [Utf16.encode, List.flatMap_nil, List.append_nil,
      List.mem_cons, List.not_mem_nil, or_false] at member
    rcases member with rfl | rfl
    · exact endsLine_ofNat_of_surrogate (by omega) (by omega)
    · exact endsLine_ofNat_of_surrogate (by omega) (by omega)

theorem contentOf_of_isTyped : contentOf [c] = Utf16.encode [c] :=
  normalised_of_forall (endsLine_eq_false_of_isTyped typed inLine)

theorem separator_notMem_encode_of_isTyped :
    separator ∉ Utf16.encode [c] := by
  intro member
  have ends := endsLine_eq_false_of_isTyped typed inLine separator member
  exact absurd ends (by decide)

theorem contentOf_ne_nil_of_isTyped : contentOf [c] ≠ [] := by
  rw [contentOf_of_isTyped typed inLine]
  exact Utf16.encode_singleton_ne_nil c

end InLine

/--
The key of the character puts in one unit, which is no half of a pair and ends
no line.
-/
structure IsKey (c : CodePoint) : Prop where
  isTyped_eq : isTyped c false = true
  plain : c.val < 0xD800
  inLine : c.val ≠ 0x2029

instance (c : CodePoint) : Decidable (IsKey c) :=
  decidable_of_iff
    (isTyped c false = true ∧ c.val < 0xD800 ∧ c.val ≠ 0x2029)
    ⟨fun ⟨typed, plain, inLine⟩ => ⟨typed, plain, inLine⟩,
      fun ⟨typed, plain, inLine⟩ => ⟨typed, plain, inLine⟩⟩

namespace IsKey

variable
    {c : CodePoint}
    (key : IsKey c)

include key

theorem encode_eq : Utf16.encode [c] = [.ofNat c.val] := by
  rw [Utf16.encode_cons, Utf16.encodeOne_of_lt key.plain]
  rfl

theorem encode_cons_eq (text : Text) :
    Utf16.encode (c :: text) = .ofNat c.val :: Utf16.encode text := by
  rw [Utf16.encode_cons, Utf16.encodeOne_of_lt key.plain,
    List.singleton_append]

theorem single_eq : (CodeUnit.ofNat c.val).single = c :=
  Utf16.single_ofNat_val (Nat.lt_trans key.plain (by decide))

theorem ne_separator : CodeUnit.ofNat c.val ≠ separator := by
  intro same
  apply separator_notMem_encode_of_isTyped key.isTyped_eq key.inLine
  rw [key.encode_eq, same]
  exact List.mem_singleton_self _

theorem firstLine_cons_eq (rest : List CodeUnit) :
    firstLine (.ofNat c.val :: rest) = c :: firstLine rest := by
  rw [firstLine_cons key.ne_separator (Utf16.isHigh_ofNat_of_lt key.plain),
    key.single_eq]

end IsKey

/-- The cursor of the editor stands between two parts of the document. -/
abbrev IsAt (editor : Editor) (before after : List CodeUnit) : Prop :=
  Between editor.content editor.cursor before after

theorem isAt_finish
    {editor : Editor}
    {draft : Draft}
    (isFrom : draft.IsFrom editor.content)
    {before after : List CodeUnit}
    (between : Between draft.content draft.cursor before after)
    (memo : Indent.Memo)
    (span : Span) :
    (editor.finish draft memo span).editor.IsAt before after :=
  ⟨(content_finish isFrom).trans between.content_eq, between.cursor_eq⟩

section Typing

variable
    {editor : Editor}
    (sound : editor.Sound)
    {c : CodePoint}
    (typed : isTyped c false = true)
    (inLine : c.val ≠ 0x2029)

include sound typed inLine

theorem Sound.between_type :
    Between (editor.draft.type [c]).content (editor.draft.type [c]).cursor
      (editor.content.take editor.cursor.first ++ Utf16.encode [c])
      (editor.content.drop editor.cursor.last) := by
  have made := contentOf_ne_nil_of_isTyped typed inLine
  rw [← contentOf_of_isTyped typed inLine]
  exact Draft.between_type sound.position_le sound.anchor_le made

/-- A character goes in place of the selection. -/
theorem Sound.isAt_putIn :
    (editor.putIn c).editor.IsAt
      (editor.content.take editor.cursor.first ++ Utf16.encode [c])
      (editor.content.drop editor.cursor.last) :=
  isAt_finish (sound.draft.type [c]) (sound.between_type typed inLine)
    editor.memo editor.keySpan

theorem Sound.isAt_typePlain :
    (editor.typePlain c false).editor.IsAt
      (editor.content.take editor.cursor.first ++ Utf16.encode [c])
      (editor.content.drop editor.cursor.last) := by
  rw [Editor.typePlain, if_pos typed]
  exact sound.isAt_putIn typed inLine

end Typing

section Pair

variable {close : CodePoint} (closeKey : IsKey close)

include closeKey

/-- One position back, a bracket that stands before the cursor is behind it. -/
theorem isAt_backOver
    {outcome : Outcome}
    {before after : List CodeUnit}
    (closed : outcome.editor.IsAt (before ++ Utf16.encode [close]) after) :
    (outcome.andThen fun editor =>
      editor.placeCursor
        (.atPosition (editor.cursor.position - 1))).editor.IsAt before
      (Utf16.encode [close] ++ after) := by
  constructor
  · exact closed.content_eq.trans (List.append_assoc _ _ _)
  · have back := congrArg
      (fun cursor => Cursor.atPosition (cursor.position - 1))
      closed.cursor_eq
    rw [List.length_append, closeKey.encode_eq] at back
    exact back

/-- The cursor stays between the two brackets that go in. -/
theorem Sound.isAt_typePair
    {editor : Editor}
    (sound : editor.Sound)
    {opening : CodePoint}
    (openingKey : IsKey opening) :
    (editor.typePair opening close false).editor.IsAt
      (editor.content.take editor.cursor.first ++ Utf16.encode [opening])
      (Utf16.encode [close] ++ editor.content.drop editor.cursor.last) := by
  have opened := sound.isAt_typePlain openingKey.isTyped_eq openingKey.inLine
  have closed :=
    (sound.typePlain opening false).isAt_putIn closeKey.isTyped_eq
      closeKey.inLine
  rw [opened.take_first_eq, opened.drop_last_eq] at closed
  rw [Editor.typePair]
  exact isAt_backOver closeKey closed

end Pair

/-! ## Closing brackets -/

/-- Nothing is selected, and the character is next to the cursor. -/
def IsNext (editor : Editor) (c : CodePoint) : Prop :=
  editor.cursor.hasSelection = false ∧
    (editor.content.drop editor.cursor.position).head?.map CodeUnit.single =
      some c

instance (editor : Editor) (c : CodePoint) : Decidable (editor.IsNext c) :=
  inferInstanceAs (Decidable (_ ∧ _))

theorem typeClosing_eq (editor : Editor) (c : CodePoint) (control : Bool) :
    editor.typeClosing c control =
      if editor.IsNext c then
        editor.placeCursor
          (.atPosition
            (characterAfter editor.content editor.cursor.position))
      else editor.typePlain c control := rfl

/-- What follows the cursor begins with the character that is next to it. -/
theorem IsNext.exists_firstLine_eq
    {editor : Editor}
    {c : CodePoint}
    (next : editor.IsNext c)
    (key : IsKey c) :
    ∃ rest,
      firstLine (editor.content.drop editor.cursor.position) =
        c :: firstLine rest := by
  obtain ⟨unit, first, rfl⟩ := Option.map_eq_some_iff.mp next.2
  obtain ⟨rest, follows⟩ := List.head?_eq_some_iff.mp first
  have same : CodeUnit.ofNat unit.single.val = unit :=
    CodeUnit.ext (CodeUnit.val_ofNat unit.isLt)
  have shown := key.firstLine_cons_eq rest
  rw [same] at shown
  exact ⟨rest, by rw [follows, shown]⟩

end ClauseEditor.Editor
