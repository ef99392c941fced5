import ClauseEditor.Decimal.Binary64
import ClauseEditor.Text.CodePoint

/-!
# JSON values

Numbers written without fraction and exponent are integers of any size, all
others are binary numbers.  The members of an object keep their order; a key
occurs once, at the place where it was first given.
-/

namespace ClauseEditor

inductive Json where
  | null
  | bool (value : Bool)
  | integer (value : Int)
  | number (value : Binary64)
  | string (value : Text)
  | array (items : List Json)
  | object (members : List (Text × Json))

namespace Json

/-- The members of an object. -/
abbrev Members := List (Text × Json)

/-- The value of a key. -/
def Members.find? (members : Members) (key : Text) : Option Json :=
  (List.find? (fun member => member.1 = key) members).map Prod.snd

/--
Gives a key its value.  A key that is present keeps its place, a new one
comes last.
-/
def Members.insert
    (members : Members)
    (key : Text)
    (value : Json) :
    Members :=
  match members with
  | [] => [(key, value)]
  | (present, old) :: rest =>
    if present = key then (present, value) :: rest
    else (present, old) :: Members.insert rest key value

@[simp]
theorem Members.find?_insert_self
    (members : Members)
    (key : Text)
    (value : Json) :
    (members.insert key value).find? key = some value := by
  induction members with
  | nil => simp [insert, find?]
  | cons member rest induction =>
      rcases member with ⟨present, old⟩
      by_cases same : present = key
      · simp [insert, find?, same]
      · simpa [insert, find?, same] using induction

theorem Members.find?_insert_of_ne
    {members : Members}
    {key other : Text}
    (different : other ≠ key)
    (value : Json) :
    (members.insert key value).find? other = members.find? other := by
  induction members with
  | nil => simp [insert, find?, Ne.symm different]
  | cons member rest induction =>
      rcases member with ⟨present, old⟩
      by_cases same : present = key
      · subst same
        simp [insert, find?, Ne.symm different]
      · by_cases found : present = other
        · subst found
          simp [insert, find?, same]
        · simpa [insert, find?, same, found] using induction

/-- The object whose members are given one after another. -/
def Members.ofList (given : List (Text × Json)) : Members :=
  given.foldl (fun members member => members.insert member.1 member.2) []

end Json

end ClauseEditor
