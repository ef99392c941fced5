import ClauseEditor.Indent.Margin

/-!
# Reindenting a text

Every line is moved to its column, from the top down.  The lines above a
line have been moved when its column is computed, and one memo serves
the whole pass: a margin has no effect on the boundaries that it remembers.

A line of blank characters becomes empty, but for the carriage return of a
line end of two characters.
-/

namespace ClauseEditor.Indent

/-- What a line of blank characters becomes. -/
def emptied (line : Text) : Text :=
  if line.getLast? = some (CodePoint.ofChar '\r') then
    [CodePoint.ofChar '\r']
  else []

/-- Reindents line `index` of `lines`. -/
def reindentLine
    (style : Style)
    (lines : List Text)
    (memo : Memo)
    (index : Nat) :
    Except MarginError (List Text × Memo) :=
  match lines[index]? with
  | none => .ok (lines, memo)
  | some line =>
    if Text.isBlank line then .ok (lines.set index (emptied line), memo)
    else do
      let (column, memo) := columnOf memo lines index style
      let placed ← moveTo style line 0 column
      return (lines.set index placed.line, memo)

/-- Reindents the `count` lines from line `index` on, from the top down. -/
def reindentLines
    (style : Style)
    (lines : List Text)
    (memo : Memo)
    (index : Nat) :
    Nat → Except MarginError (List Text)
  | 0 => .ok lines
  | count + 1 => do
    let (lines, memo) ← reindentLine style lines memo index
    reindentLines style lines memo (index + 1) count

/-- Reindents every line of a text. -/
def reindentText (style : Style) (text : Text) : Except MarginError Text := do
  let lines := text.lines
  let lines ← reindentLines style lines .empty 0 lines.length
  return Text.ofLines lines

end ClauseEditor.Indent
