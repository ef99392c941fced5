import ClauseEditor.Text.Printable

/-!
# Quoted text

In a message a text stands in single quotes, or in double quotes if it holds
a single quote and no double one.  The quote, the backslash and characters
that are not printable are escaped.
-/

namespace ClauseEditor.Text

/-- The `count` last hexadecimal digits of a number, in lower case. -/
def hexDigits (n : Nat) : Nat → Text
  | 0 => []
  | count + 1 =>
    hexDigits (n / 16) count ++ [CodePoint.ofChar (Nat.digitChar (n % 16))]

/-- How a character appears between quotes of the given kind. -/
def quotedChar (mark c : CodePoint) : Text :=
  if c = mark ∨ c = '\\' then ofString "\\" ++ [c]
  else if c = '\n' then ofString "\\n"
  else if c = '\r' then ofString "\\r"
  else if c = '\t' then ofString "\\t"
  else if c.isPrintable then [c]
  else if c.val < 0x100 then ofString "\\x" ++ hexDigits c.val 2
  else if c.val < 0x10000 then ofString "\\u" ++ hexDigits c.val 4
  else ofString "\\U" ++ hexDigits c.val 8

/-- The text in quotes. -/
def quoted (text : Text) : Text :=
  let single := CodePoint.ofChar '\''
  let double := CodePoint.ofChar '"'
  let mark := if single ∈ text ∧ double ∉ text then double else single
  mark :: text.flatMap (quotedChar mark) ++ [mark]

end ClauseEditor.Text
