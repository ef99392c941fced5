import ClauseEditor.Text.Blank

/-!
# Turning line comments on and off

Lines are commented out together: the mark goes to the smallest indentation
among them, with a space after it.  If every line is a comment already, the
first mark of each is taken away, and one space after it.  Blank lines take
no part.
-/

namespace ClauseEditor.Commenting

/-- Whether a line starts with the mark after its leading blank characters. -/
def isCommented (mark line : Text) : Bool :=
  (Text.stripLeft line).startsWith mark

/-- How many blank characters start a line. -/
def depth (line : Text) : Nat :=
  line.length - (Text.stripLeft line).length

/-- The line with the mark and a space put in at a position. -/
def comment (mark : Text) (position : Nat) (line : Text) : Text :=
  line.take position ++ mark ++ Text.ofString " " ++ line.drop position

/-- The line without its first mark and without one space after that. -/
def uncomment (mark line : Text) : Text :=
  match line.indexOf? mark with
  | none => line
  | some position =>
    let rest := line.drop (position + mark.length)
    let rest :=
      if Text.startsWith rest (Text.ofString " ") then rest.drop 1 else rest
    line.take position ++ rest

/-- Applies a change to the lines that are not blank. -/
def onContent (change : Text → Text) (lines : List Text) : List Text :=
  lines.map fun line => if Text.isBlank line then line else change line

/-- Comments the lines out, or uncomments them if all are comments. -/
def toggle (mark : Text) (lines : List Text) : List Text :=
  let contents := lines.filter fun line => !Text.isBlank line
  if contents.all (isCommented mark) then onContent (uncomment mark) lines
  else
    onContent (comment mark ((contents.map depth).min?.getD 0)) lines

end ClauseEditor.Commenting
