import ClauseEditor.Highlight.Recogniser

/-!
# Strings and comments

The literals of a line are found from left to right, so that the first
opening mark wins.  A string runs to its closing quote or to the end of the
line; a backslash at the very end is not part of it.  A block comment that
the line does not close goes on in the next line.

Opening marks are looked for by units, but the closing mark of a comment and
the length of a string are counted in code points.  On lines without
surrogate pairs the two counts agree.  Where they differ, stretches come out
shorter or shifted, and a search that would start within a pair, or in front
of a half without its partner, ends the scan of the line.
-/

namespace ClauseEditor.Highlight

open ClauseEditor.Scallop

/-- What opens a literal. -/
inductive Opener where
  /-- A string, with its length in code points. -/
  | string (length : Nat)
  | lineComment
  | blockComment
deriving DecidableEq

/-- How many units of a string follow its opening quote. -/
def stringRest : List CodeUnit → Nat
  | [] => 0
  | [unit] => if unit = .ofChar '\\' then 0 else 1
  | unit :: next :: rest =>
    if unit = .ofChar '"' then 1
    else if unit = .ofChar '\\' then 2 + stringRest rest
    else 1 + stringRest (next :: rest)

/-- The literal that opens at the start of some units. -/
def opener? (units : List CodeUnit) : Option Opener :=
  if units.head? = some (.ofChar '"') then
    let token := units.take (1 + stringRest (units.drop 1))
    some (.string (Utf16.decode token).length)
  else if (Utf16.encode lineComment).isPrefixOf units then some .lineComment
  else if (Utf16.encode blockCommentStart).isPrefixOf units then
    some .blockComment
  else none

/-- The first literal that opens in some units, and how far on. -/
def firstOpener? : List CodeUnit → Option (Nat × Opener)
  | [] => none
  | unit :: rest =>
    match opener? (unit :: rest) with
    | some opener => some (0, opener)
    | none => (firstOpener? rest).map fun found => (found.1 + 1, found.2)

/-- Strings and comments are coloured differently. -/
inductive LiteralKind where
  | string
  | comment
deriving DecidableEq

structure Literal where
  kind : LiteralKind
  span : Span
deriving DecidableEq

/-- The literals of a line, and whether a block comment is open at its end. -/
structure Literals where
  found : List Literal
  openComment : Bool
deriving DecidableEq

def Literals.add (literal : Literal) (others : Literals) : Literals :=
  ⟨literal :: others.found, others.openComment⟩

/-- A comment that ends the scan of a line. -/
def Literals.lastComment
    (start length : Nat)
    (openComment : Bool) :
    Literals :=
  ⟨[⟨.comment, ⟨start, length⟩⟩], openComment⟩

theorem le_of_indexFrom?
    {text part : Text}
    {start index : Nat}
    (found : text.indexFrom? part start = some index) :
    start ≤ index := by
  unfold Text.indexFrom? at found
  split at found
  · rcases Option.map_eq_some_iff.1 found with ⟨offset, _, rfl⟩
    omega
  · cases found

/-- The literals from `position` on in a line of the given text and units. -/
def literalsFrom
    (text : Text)
    (units : List CodeUnit)
    (position : Nat) :
    Literals :=
  if _inside : position < text.length then
    let rest := units.drop position
    match if Utf16.isWellFormed rest then firstOpener? rest else none with
    | none => ⟨[], false⟩
    | some (offset, opener) =>
      let start := position + offset
      match opener with
      | .lineComment => .lastComment start (text.length - start) false
      | .blockComment =>
        match found : text.indexFrom? blockCommentEnd (start + 2) with
        | none => .lastComment start (text.length - start) true
        | some close =>
          have : start + 2 ≤ close := le_of_indexFrom? found
          (literalsFrom text units (close + 2)).add
            ⟨.comment, ⟨start, close + 2 - start⟩⟩
      | .string length =>
        (literalsFrom text units (start + max 1 length)).add
          ⟨.string, ⟨start, length⟩⟩
  else ⟨[], false⟩
termination_by text.length - position
decreasing_by all_goals omega

/-- The literals of a line that may start within a block comment. -/
def literals (inComment : Bool) (units : List CodeUnit) : Literals :=
  let text := Utf16.decode units
  if inComment then
    match text.indexOf? blockCommentEnd with
    | none => .lastComment 0 text.length true
    | some close =>
      (literalsFrom text units (close + 2)).add ⟨.comment, ⟨0, close + 2⟩⟩
  else literalsFrom text units 0

end ClauseEditor.Highlight
