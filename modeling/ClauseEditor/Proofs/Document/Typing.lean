import ClauseEditor.Proofs.Document.Replay

/-!
# Text at the cursor

Typing takes the selection out and puts text in where it began.  The cursor
then stands behind the text, whichever end of the selection it stood at: a
cursor at the front end takes the selection out forwards and stays, and one
at the back end moves to the front.
-/

namespace ClauseEditor.Document

theorem Cursor.first_le_last (cursor : Cursor) :
    cursor.first ≤ cursor.last := by
  rw [first, last]
  omega

theorem Cursor.eq_atPosition
    {cursor : Cursor}
    (selectsNone : cursor.hasSelection = false) :
    cursor = .atPosition cursor.position := by
  rcases cursor with ⟨position, anchor⟩
  have same : position = anchor :=
    Decidable.not_not.mp (of_decide_eq_false selectsNone)
  rw [atPosition, same]

/-- The cursor stands between two parts of a content and selects nothing. -/
structure Between
    (content : List CodeUnit)
    (cursor : Cursor)
    (before after : List CodeUnit) :
    Prop where
  content_eq : content = before ++ after
  cursor_eq : cursor = .atPosition before.length

theorem between_take_drop
    {content : List CodeUnit}
    {position : Nat}
    (inside : position ≤ content.length) :
    Between content (.atPosition position) (content.take position)
      (content.drop position) := by
  constructor
  · exact (List.take_append_drop position content).symm
  · rw [List.length_take_of_le inside]

namespace Between

variable
    {content before after : List CodeUnit}
    {cursor : Cursor}
    (between : Between content cursor before after)

include between

theorem take_eq : content.take before.length = before := by
  rw [between.content_eq, List.take_left]

theorem take_position_eq : content.take cursor.position = before := by
  rw [between.cursor_eq]
  exact between.take_eq

theorem drop_eq : content.drop before.length = after := by
  rw [between.content_eq, List.drop_left]

theorem drop_position_eq : content.drop cursor.position = after := by
  rw [between.cursor_eq]
  exact between.drop_eq

theorem take_first_eq : content.take cursor.first = before := by
  rw [between.cursor_eq]
  exact (congrArg content.take (Nat.min_self _)).trans between.take_eq

theorem drop_last_eq : content.drop cursor.last = after := by
  rw [between.cursor_eq]
  exact (congrArg content.drop (Nat.max_self _)).trans between.drop_eq

theorem hasSelection_eq : cursor.hasSelection = false := by
  rw [between.cursor_eq]
  exact decide_eq_false fun differs => differs rfl

theorem length_le : before.length ≤ content.length := by
  rw [between.content_eq, List.length_append]
  exact Nat.le_add_right _ _

end Between

namespace Draft

variable {draft : Draft}

/-- Changes that were made stay on record. -/
theorem mem_changes_apply
    {change other : Change}
    (made : other ∈ draft.changes) :
    other ∈ (draft.apply change).changes := by
  rw [apply]
  split
  · exact made
  · exact List.mem_cons_of_mem change made

/-! ## Taking the selection out -/

theorem content_removeSelection (draft : Draft) :
    draft.removeSelection.content =
      draft.content.take draft.cursor.first ++
        draft.content.drop draft.cursor.last :=
  content_removeKeeping draft draft.cursor.first_le_last _

/-- There is nothing to take out if nothing is selected. -/
theorem removeSelection_of_unselected
    (unselected : draft.cursor.hasSelection = false) :
    draft.removeSelection = draft := by
  have cursor := Cursor.eq_atPosition unselected
  rw [removeSelection, apply, if_pos]
  rw [cursor]
  simp [Change.remove, Cursor.first, Cursor.last, Cursor.atPosition]

/-- Both ends of the selection come to where it began. -/
theorem cursor_removeSelection
    (position_le : draft.cursor.position ≤ draft.content.length)
    (anchor_le : draft.cursor.anchor ≤ draft.content.length) :
    draft.removeSelection.cursor = .atPosition draft.cursor.first := by
  rcases draft with ⟨content, ⟨position, anchor⟩, changes, touched⟩
  have width :
      ((content.take (max position anchor)).drop
          (min position anchor)).length =
        max position anchor - min position anchor := by
    simp only at position_le anchor_le
    rw [List.length_drop, List.length_take]
    omega
  rw [removeSelection, apply]
  split
  · rename_i empty
    have nothing := congrArg List.length empty
    simp only [Change.remove, Cursor.first, Cursor.last, width,
      List.length_nil, Cursor.atPosition, Cursor.mk.injEq] at nothing ⊢
    omega
  · simp only [Cursor.move, Change.move, Change.remove, Cursor.first,
      Cursor.last, width, decide_eq_true_eq, Cursor.atPosition,
      Cursor.mk.injEq]
    constructor
    · split <;> omega
    · split <;> omega

theorem position_removeSelection
    (position_le : draft.cursor.position ≤ draft.content.length)
    (anchor_le : draft.cursor.anchor ≤ draft.content.length) :
    draft.removeSelection.cursor.position = draft.cursor.first := by
  rw [cursor_removeSelection position_le anchor_le, Cursor.atPosition]

/-! ## Putting text in -/

section AtCursor

variable
    (position_le : draft.cursor.position ≤ draft.content.length)
    (anchor_le : draft.cursor.anchor ≤ draft.content.length)
    (text : Text)

include position_le anchor_le

theorem content_type :
    (draft.type text).content =
      draft.content.take draft.cursor.first ++ contentOf text ++
        draft.content.drop draft.cursor.last := by
  have start := position_removeSelection position_le anchor_le
  have first_le : draft.cursor.first ≤ draft.content.length :=
    Nat.le_trans (Nat.min_le_left _ _) position_le
  have length :
      (draft.content.take draft.cursor.first).length = draft.cursor.first :=
    List.length_take_of_le first_le
  rw [type, content_insert, start, content_removeSelection,
    List.take_append_of_le_length (Nat.le_of_eq length.symm),
    List.drop_append_of_le_length (Nat.le_of_eq length.symm),
    List.drop_eq_nil_of_le (Nat.le_of_eq length), List.take_take,
    Nat.min_self, List.nil_append]

variable {text}

/-- The text is put in where the selection began. -/
theorem changes_type (nonempty : contentOf text ≠ []) :
    (draft.type text).changes =
      .insert draft.cursor.first (contentOf text) ::
        draft.removeSelection.changes := by
  have start := position_removeSelection position_le anchor_le
  have made :
      (Change.insert draft.cursor.first (contentOf text)).units ≠ [] :=
    nonempty
  rw [type, start, insert, apply, if_neg made]

theorem mem_changes_type (nonempty : contentOf text ≠ []) :
    .insert draft.cursor.first (contentOf text) ∈
      (draft.type text).changes := by
  rw [changes_type position_le anchor_le nonempty]
  exact List.mem_cons_self

/-- The cursor goes behind the text and selects nothing. -/
theorem cursor_type (nonempty : contentOf text ≠ []) :
    (draft.type text).cursor =
      .atPosition (draft.cursor.first + (contentOf text).length) := by
  have start := cursor_removeSelection position_le anchor_le
  have made (position : Nat) :
      (Change.insert position (contentOf text)).units ≠ [] :=
    nonempty
  rw [type, insert, apply, if_neg (made _), start]
  simp [Cursor.move, Change.move, Change.insert, Cursor.atPosition]

theorem position_type (nonempty : contentOf text ≠ []) :
    (draft.type text).cursor.position =
      draft.cursor.first + (contentOf text).length := by
  rw [cursor_type position_le anchor_le nonempty, Cursor.atPosition]

/-- What was in front of the selection and the text are in front of it then. -/
theorem between_type (nonempty : contentOf text ≠ []) :
    Between (draft.type text).content (draft.type text).cursor
      (draft.content.take draft.cursor.first ++ contentOf text)
      (draft.content.drop draft.cursor.last) := by
  have first_le : draft.cursor.first ≤ draft.content.length :=
    Nat.le_trans (Nat.min_le_left _ _) position_le
  constructor
  · exact content_type position_le anchor_le text
  · rw [cursor_type position_le anchor_le nonempty, List.length_append,
      List.length_take_of_le first_le]

end AtCursor

end Draft

/-- Text that is typed between two parts goes between them. -/
theorem Between.type
    {draft : Draft}
    {before after : List CodeUnit}
    (between : Between draft.content draft.cursor before after)
    {text : Text}
    (nonempty : contentOf text ≠ []) :
    Between (draft.type text).content (draft.type text).cursor
      (before ++ contentOf text) after := by
  have position_le : draft.cursor.position ≤ draft.content.length := by
    rw [between.cursor_eq]
    exact between.length_le
  have anchor_le : draft.cursor.anchor ≤ draft.content.length := by
    rw [between.cursor_eq]
    exact between.length_le
  have typed := Draft.between_type position_le anchor_le nonempty
  rwa [between.take_first_eq, between.drop_last_eq] at typed

end ClauseEditor.Document
