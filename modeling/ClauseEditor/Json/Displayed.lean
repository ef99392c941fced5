import ClauseEditor.Decimal.Notation
import ClauseEditor.Json.Value
import ClauseEditor.Text.Quoted

/-!
# Values in messages

A message shows a value in the notation of the settings' log: capitalised
constants, strings in single quotes, and no line breaks.
-/

namespace ClauseEditor.Json

/-- The words for numbers that are not finite. -/
def displayedWords : NonFiniteWords where
  nan := Text.ofString "nan"
  infinity := Text.ofString "inf"

mutual

/-- A value as a message shows it. -/
def displayed : Json → Text
  | .null => Text.ofString "None"
  | .bool true => Text.ofString "True"
  | .bool false => Text.ofString "False"
  | .integer value => Text.ofInt value
  | .number value => value.render displayedWords
  | .string value => Text.quoted value
  | .array items => Text.ofString "[" ++ displayedItems items ++ Text.ofString "]"
  | .object members =>
    Text.ofString "\x7b" ++ displayedMembers members ++ Text.ofString "\x7d"

/-- Items with commas between them. -/
def displayedItems : List Json → Text
  | [] => []
  | [item] => displayed item
  | item :: next :: items =>
    displayed item ++ Text.ofString ", " ++ displayedItems (next :: items)

/-- Members with commas between them. -/
def displayedMembers : List (Text × Json) → Text
  | [] => []
  | [(key, value)] => Text.quoted key ++ Text.ofString ": " ++ displayed value
  | (key, value) :: next :: members =>
    Text.quoted key ++ Text.ofString ": " ++ displayed value ++
      Text.ofString ", " ++ displayedMembers (next :: members)

end

end ClauseEditor.Json
