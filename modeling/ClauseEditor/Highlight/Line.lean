import ClauseEditor.Highlight.Literal
import ClauseEditor.Palette

/-!
# Colouring a line

Every unit of a line gets at most one role.  The rules are applied in a
fixed order and a later one takes the units that an earlier one had; the
literals come last, so nothing inside a string or a comment keeps another
role.  A line with a surrogate that has no partner gets no role but those of
its literals.
-/

namespace ClauseEditor.Highlight

open ClauseEditor.Scallop

/-- What a unit of a line is part of. -/
inductive Role where
  | operator
  | keyword
  | aggregator
  | attributeName
  | type
  | constant
  | number
  | relationName
  | typeName
  | string
  | comment
deriving DecidableEq

/-- A role for every unit; `none` for plain text. -/
abbrev Roles := List (Option Role)

/-- Gives the units of a stretch a role. -/
def paint (role : Role) (roles : Roles) (span : Span) : Roles :=
  roles.mapIdx fun position old =>
    if span.covers position then some role else old

/-- The kinds of tokens and how they are recognised, in the order of painting. -/
def rules : List (Role × Recogniser) :=
  let units (words : List Text) := words.map Utf16.encode
  [(.operator, oneOf (units operators)),
    (.keyword, wholeWord (units (declarations ++ keywords))),
    (.aggregator, wholeWord (units aggregators)),
    (.attributeName, attributeName),
    (.type, wholeWord (units types)),
    (.constant, wholeWord (units constants)),
    (.number, numeral),
    (.relationName, nameAfter (units relationDeclarations)),
    (.typeName, nameAfter (units [typeDeclaration]))]

/-- Paints all tokens of one kind. -/
def paintRule
    (units : List CodeUnit)
    (roles : Roles)
    (rule : Role × Recogniser) :
    Roles :=
  (tokens rule.2 units).foldl (paint rule.1) roles

/-- The roles of a line without regard to its literals. -/
def tokenRoles (units : List CodeUnit) : Roles :=
  let plain := units.map fun _ => none
  if Utf16.isWellFormed units then rules.foldl (paintRule units) plain
  else plain

def LiteralKind.role : LiteralKind → Role
  | .string => .string
  | .comment => .comment

/-- A coloured line, and whether a block comment is open at its end. -/
structure ColouredLine where
  roles : Roles
  openComment : Bool
deriving DecidableEq

/-- Colours a line that may start within a block comment. -/
def colourLine (inComment : Bool) (units : List CodeUnit) : ColouredLine :=
  let literals := literals inComment units
  ⟨literals.found.foldl
      (fun roles literal => paint literal.kind.role roles literal.span)
      (tokenRoles units),
    literals.openComment⟩

/-- Colours lines one after another, the first of which may start in a comment. -/
def colourLines (inComment : Bool) : List (List CodeUnit) → List ColouredLine
  | [] => []
  | line :: lines =>
    let coloured := colourLine inComment line
    coloured :: colourLines coloured.openComment lines

/-! ## Formats -/

/-- How a role appears. -/
structure Format where
  colour : Colour
  bold : Bool
  italic : Bool
  underline : Bool
deriving DecidableEq

/-- The format of a role. -/
def Role.format (palette : Palette) : Role → Format
  | operator => ⟨palette.operator, false, false, false⟩
  | keyword => ⟨palette.keyword, true, false, false⟩
  | aggregator => ⟨palette.keyword, false, false, false⟩
  | attributeName => ⟨palette.keyword, false, true, false⟩
  | type => ⟨palette.type, false, false, false⟩
  | constant => ⟨palette.constant, false, false, false⟩
  | number => ⟨palette.number, false, false, false⟩
  | relationName => ⟨palette.declaration, false, false, true⟩
  | typeName => ⟨palette.declaration, true, false, false⟩
  | string => ⟨palette.string, false, false, false⟩
  | comment => ⟨palette.comment, false, true, false⟩

/-- A stretch of units in one format. -/
structure FormattedSpan where
  span : Span
  format : Format
deriving DecidableEq

/-- The longest stretches of one format, from `position` on; plain text is left out. -/
def formattedFrom (position : Nat) : List (Option Format) → List FormattedSpan
  | [] => []
  | none :: rest => formattedFrom (position + 1) rest
  | some format :: rest =>
    match formattedFrom (position + 1) rest with
    | [] => [⟨⟨position, 1⟩, format⟩]
    | first :: others =>
      if first.span.start = position + 1 ∧ first.format = format then
        ⟨⟨position, first.span.length + 1⟩, format⟩ :: others
      else ⟨⟨position, 1⟩, format⟩ :: first :: others

/-- The formatted stretches of a coloured line. -/
def ColouredLine.spans
    (line : ColouredLine)
    (palette : Palette) :
    List FormattedSpan :=
  formattedFrom 0 (line.roles.map fun role => role.map (·.format palette))

end ClauseEditor.Highlight
