import ClauseEditor.Text.CodePoint

/-!
# Taking one level off a line

A line loses one unit of indentation at its start, or else one tab, or else
nothing.
-/

namespace ClauseEditor.Indent

/-- The line without one leading `unit`, or without one leading tab. -/
def outdent (unit line : Text) : Text :=
  if line.startsWith unit then line.drop unit.length
  else
    match line with
    | c :: rest => if c = '\t' then rest else line
    | [] => line

end ClauseEditor.Indent
