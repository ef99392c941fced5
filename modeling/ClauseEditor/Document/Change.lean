import ClauseEditor.Document.Units

/-!
# Changes and cursors

Every edit is a sequence of insertions and removals.  A change moves the
cursors of the document along with the text around them, and it has an
inverse, which undoes it and moves the cursors accordingly.

A change counts as having touched a cursor that stands behind it, or exactly
at it.  A removal that the cursor itself carries out forwards is an
exception: it leaves a cursor at its own position untouched.
-/

namespace ClauseEditor.Document

/-- A cursor stands at `position`; the selection goes from there to `anchor`. -/
structure Cursor where
  position : Nat
  anchor : Nat
deriving DecidableEq

namespace Cursor

/-- A cursor without a selection. -/
def atPosition (position : Nat) : Cursor := ⟨position, position⟩

def hasSelection (cursor : Cursor) : Bool :=
  cursor.position ≠ cursor.anchor

/-- The start of the selection. -/
def first (cursor : Cursor) : Nat :=
  min cursor.position cursor.anchor

/-- The end of the selection. -/
def last (cursor : Cursor) : Nat :=
  max cursor.position cursor.anchor

end Cursor

inductive ChangeKind where
  | insertion
  | removal
deriving DecidableEq

/-- Some units go in, or out, at a position. -/
structure Change where
  kind : ChangeKind
  position : Nat
  units : List CodeUnit
  /-- A cursor at the very position is left untouched. -/
  keepsCursor : Bool
deriving DecidableEq

namespace Change

def insert (position : Nat) (units : List CodeUnit) : Change :=
  ⟨.insertion, position, units, false⟩

/-- The removal of what stands between two positions of a content. -/
def remove
    (content : List CodeUnit)
    (first last : Nat)
    (keepsCursor : Bool) :
    Change :=
  ⟨.removal, first, (content.take last).drop first, keepsCursor⟩

/-- The content after a change. -/
def apply (change : Change) (content : List CodeUnit) : List CodeUnit :=
  match change.kind with
  | .insertion =>
    content.take change.position ++ change.units ++
      content.drop change.position
  | .removal =>
    content.take change.position ++
      content.drop (change.position + change.units.length)

/-- The change that takes another one back. -/
def inverse (change : Change) : Change :=
  match change.kind with
  | .insertion => { change with kind := .removal }
  | .removal => { change with kind := .insertion }

@[simp]
theorem inverse_inverse (change : Change) :
    change.inverse.inverse = change := by
  rcases change with ⟨kind, position, units, keepsCursor⟩
  cases kind <;> rfl

/--
The change makes sense for a content: its position is inside, and what it
removes is there.
-/
def Fits (change : Change) (content : List CodeUnit) : Prop :=
  change.position ≤ content.length ∧
    (change.kind = .removal →
      (content.drop change.position).take change.units.length = change.units)

theorem apply_inverse
    {change : Change}
    {content : List CodeUnit}
    (fits : change.Fits content) :
    change.inverse.apply (change.apply content) = content := by
  rcases change with ⟨kind, position, units, keepsCursor⟩
  rcases fits with ⟨inside, present⟩
  simp only at inside present
  have width : (content.take position).length = position := by
    simp [inside]
  cases kind with
  | insertion =>
      simp only [inverse, apply, List.append_assoc]
      rw [List.take_append_of_le_length (by omega), List.take_of_length_le
        (by omega), ← List.append_assoc, List.drop_append_of_le_length
        (by simp [width])]
      simp [List.drop_eq_nil_of_le, width]
  | removal =>
      have present := present rfl
      simp only [inverse, apply]
      rw [List.take_append_of_le_length (by omega), List.take_of_length_le
        (by omega), List.drop_append_of_le_length (by omega),
        List.drop_eq_nil_of_le (by omega), List.nil_append,
        ← List.drop_drop, List.append_assoc]
      conv =>
        lhs
        rhs
        lhs
        rw [← present]
      rw [List.take_append_drop, List.take_append_drop]

/-- Where a position goes. -/
def move (change : Change) (position : Nat) : Nat :=
  if position < change.position ∨
      (position = change.position ∧ change.keepsCursor) then position
  else
    match change.kind with
    | .insertion => position + change.units.length
    | .removal => max change.position (position - change.units.length)

/-- Whether a change touches a cursor at a position. -/
def touches (change : Change) (position : Nat) : Bool :=
  change.position < position ||
    (change.position = position && !change.keepsCursor)

end Change

/-- Where a cursor goes. -/
def Cursor.move (cursor : Cursor) (change : Change) : Cursor :=
  ⟨change.move cursor.position, change.move cursor.anchor⟩

end ClauseEditor.Document
