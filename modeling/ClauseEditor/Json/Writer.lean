import ClauseEditor.Decimal.Notation
import ClauseEditor.Json.Value

/-!
# Writing JSON

Strings are written in printable ASCII: every other character becomes an
escape of its UTF-16 units in lower case hexadecimal.  In the indented form
every item and member stands on a line of its own; an empty array or object
is written without a break.
-/

namespace ClauseEditor.Json

/-- A hexadecimal digit in lower case. -/
def hexDigit (n : Nat) : CodePoint :=
  CodePoint.ofChar (Nat.digitChar (n % 16))

/-- The escape of one UTF-16 unit. -/
def escapeUnit (unit : Nat) : Text :=
  ['\\', 'u', hexDigit (unit / 0x1000), hexDigit (unit / 0x100),
    hexDigit (unit / 0x10), hexDigit unit]

/-- How a character appears between the quotes of a string. -/
def escape (c : CodePoint) : Text :=
  if c = '"' then ['\\', '"']
  else if c = '\\' then ['\\', '\\']
  else if c = '\n' then ['\\', 'n']
  else if c = '\r' then ['\\', 'r']
  else if c = '\t' then ['\\', 't']
  else if c.val = 0x0C then ['\\', 'f']
  else if c.val = 0x08 then ['\\', 'b']
  else if 0x20 ≤ c.val ∧ c.val ≤ 0x7E then [c]
  else if c.val < 0x10000 then escapeUnit c.val
  else
    escapeUnit (0xD800 + (c.val - 0x10000) / 0x400) ++
      escapeUnit (0xDC00 + (c.val - 0x10000) % 0x400)

/-- A string in quotes. -/
def quote (text : Text) : Text :=
  Text.ofString "\"" ++ text.flatMap escape ++ Text.ofString "\""

/-- The words of JSON's superset for numbers that are not finite. -/
def nonFiniteWords : NonFiniteWords where
  nan := Text.ofString "NaN"
  infinity := Text.ofString "Infinity"

/-- How the parts of a value are set apart. -/
inductive Layout where
  /-- All on one line. -/
  | oneLine
  /-- One part a line, each level further in by `width`; now at `depth`. -/
  | indented (width depth : Nat)

namespace Layout

def deeper : Layout → Layout
  | oneLine => oneLine
  | indented width depth => indented width (depth + 1)

/-- What separates two parts. -/
def newLine : Layout → Text
  | oneLine => []
  | indented width depth => Text.ofString "\n" ++ Text.spaces (width * depth)

end Layout

mutual

/-- The text of a value. -/
def render (layout : Layout) : Json → Text
  | .null => Text.ofString "null"
  | .bool true => Text.ofString "true"
  | .bool false => Text.ofString "false"
  | .integer value => Text.ofInt value
  | .number value => value.render nonFiniteWords
  | .string value => quote value
  | .array [] => Text.ofString "[]"
  | .array (item :: items) =>
    Text.ofString "[" ++ layout.deeper.newLine ++ render layout.deeper item ++
      renderItems layout.deeper items ++ layout.newLine ++
      Text.ofString "]"
  | .object [] => Text.ofString "\x7b\x7d"
  | .object ((key, value) :: members) =>
    Text.ofString "\x7b" ++ layout.deeper.newLine ++ quote key ++
      Text.ofString ": " ++ render layout.deeper value ++
      renderMembers layout.deeper members ++ layout.newLine ++
      Text.ofString "\x7d"

/-- The items after the first, each after its comma. -/
def renderItems (layout : Layout) : List Json → Text
  | [] => []
  | item :: items =>
    Text.ofString "," ++ layout.newLine ++ render layout item ++ renderItems layout items

/-- The members after the first, each after its comma. -/
def renderMembers (layout : Layout) : List (Text × Json) → Text
  | [] => []
  | (key, value) :: members =>
    Text.ofString "," ++ layout.newLine ++ quote key ++ Text.ofString ": " ++
      render layout value ++ renderMembers layout members

end

end ClauseEditor.Json
