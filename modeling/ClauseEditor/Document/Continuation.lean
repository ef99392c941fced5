import ClauseEditor.Document.Change

/-!
# Changes that go on

Typing a word is one change to its writer, and so is holding down a key that
erases.  A change goes on where the one before it ended if it puts units in
right behind those that went in, or takes units out right behind or right
before those that went out.  The two come to a single change then.

The positions alone do not tell.  A document numbers its units in the order in
which they are written, and the units of the two changes have to be numbered
without a gap.  So what is typed goes on only if nothing has been written in
between, and units go out together only if they came in together.
-/

namespace ClauseEditor.Document

/-- How many units a change writes. -/
def Change.written (change : Change) : Nat :=
  match change.kind with
  | .insertion => change.units.length
  | .removal => 0

/-- How many units changes write together. -/
def writtenBy : List Change → Nat
  | [] => 0
  | change :: changes => change.written + writtenBy changes

theorem writtenBy_append (changes more : List Change) :
    writtenBy (changes ++ more) = writtenBy changes + writtenBy more := by
  induction changes with
  | nil => exact (Nat.zero_add _).symm
  | cons change changes induction =>
      rw [List.cons_append, writtenBy, writtenBy, induction, Nat.add_assoc]

/-- The order of the changes does not matter. -/
theorem writtenBy_reverse (changes : List Change) :
    writtenBy changes.reverse = writtenBy changes := by
  induction changes with
  | nil => rfl
  | cons change changes induction =>
      rw [List.reverse_cons, writtenBy_append, induction, Nat.add_comm]
      rfl

/-- The numbers of the units of a content, and the next number to be given. -/
structure Numbering where
  numbers : List Nat
  next : Nat
deriving DecidableEq

namespace Numbering

/-- The units of a content that has been written at once. -/
def start (count : Nat) : Numbering :=
  ⟨List.range count, count⟩

/-- The numbering after a change. -/
def after (numbering : Numbering) (change : Change) : Numbering :=
  let before := numbering.numbers.take change.position
  let behind := numbering.numbers.drop change.position
  let next := numbering.next + change.written
  match change.kind with
  | .insertion =>
    ⟨before ++ List.range' numbering.next change.written ++ behind, next⟩
  | .removal => ⟨before ++ behind.drop change.units.length, next⟩

/-- The numbers of the units that a change puts in, or takes out. -/
def ofChange (numbering : Numbering) (change : Change) : List Nat :=
  match change.kind with
  | .insertion => List.range' numbering.next change.written
  | .removal =>
    (numbering.numbers.drop change.position).take change.units.length

/-- Whether there is no gap between two lists of numbers. -/
def adjoin (left right : List Nat) : Bool :=
  match left.getLast?, right.head? with
  | some last, some first => last + 1 = first
  | _, _ => false

end Numbering

namespace Change

/--
The single change that two come to if the later one goes on where the earlier
one ended.  `old` and `new` are the numbers of their units.  No change goes on
over a separator.
-/
def continued?
    (earlier later : Change)
    (old new : List Nat) :
    Option Change :=
  if earlier.units.getLast? = some separator ∨ separator ∈ later.units then
    none
  else
    match earlier.kind, later.kind with
    | .insertion, .insertion =>
      if later.position = earlier.position + earlier.units.length ∧
          Numbering.adjoin old new then
        some { earlier with units := earlier.units ++ later.units }
      else none
    | .removal, .removal =>
      if later.position = earlier.position ∧ Numbering.adjoin old new then
        some { earlier with units := earlier.units ++ later.units }
      else if later.position + later.units.length = earlier.position ∧
          Numbering.adjoin new old then
        some { later with units := later.units ++ earlier.units }
      else none
    | _, _ => none

end Change

end ClauseEditor.Document
