import ClauseEditor.Indent.Placement

/-!
# The margin of a line

The margin is the run of spaces and tabs at the start of a line.  A tab
leads to the next multiple of the tab width, so the width of a margin is not
defined when it holds a tab and the tab width is zero; that is the only
failure here.

Moving a line to a column replaces the margin by spaces, unless the margin
has the wanted width already: then the line keeps its tabs.
-/

namespace ClauseEditor.Indent

/-- Why a margin could not be measured. -/
inductive MarginError where
  /-- There is a tab in the margin and tab stops have no width. -/
  | zeroTabWidth
deriving DecidableEq

def isMargin (c : CodePoint) : Bool :=
  c = ' ' || c = '\t'

/-- The spaces and tabs at the start of a line. -/
def margin (line : Text) : Text :=
  line.takeWhile isMargin

/-- A line without its margin. -/
def content (line : Text) : Text :=
  line.dropWhile isMargin

@[simp]
theorem margin_append_content (line : Text) :
    margin line ++ content line = line :=
  List.takeWhile_append_dropWhile

theorem isMargin_of_mem_margin
    {line : Text}
    {c : CodePoint}
    (member : c ∈ margin line) :
    isMargin c = true :=
  List.all_eq_true.mp List.all_takeWhile c member

/-- The column after a character of a margin. -/
def columnAfter (tabWidth column : Int) (c : CodePoint) : Int :=
  if c = '\t' then (column.fdiv tabWidth + 1) * tabWidth else column + 1

/-- The width of a run of spaces and tabs, for tab stops of some width. -/
def marginWidth (tabWidth : Int) (line : Text) : Int :=
  (margin line).foldl (columnAfter tabWidth) 0

/-- The width of the margin of a line. -/
def marginWidth? (tabWidth : Int) (line : Text) : Except MarginError Int :=
  if tabWidth = 0 ∧ (CodePoint.ofChar '\t') ∈ margin line then
    .error .zeroTabWidth
  else .ok (marginWidth tabWidth line)

/-- A line and the column of a cursor in it. -/
structure Placed where
  line : Text
  column : Nat
deriving DecidableEq

/-- The line with a margin of `target` spaces in place of its own. -/
def withMargin (target : Nat) (line : Text) : Text :=
  Text.spaces target ++ content line

/--
Where the cursor goes when the margin becomes `target` wide: one inside the
margin goes to the end of the new one, and one in the content keeps its
place there.
-/
def columnWithMargin (target column : Nat) (line : Text) : Nat :=
  let width := (margin line).length
  if column ≤ width then target else column - width + target

/--
Moves a line to a column, and a cursor at `column` with it, for tab stops of
some width.  A negative target means column zero, and a column outside the
line the nearest of its ends.
-/
def aligned
    (tabWidth : Int)
    (line : Text)
    (column target : Int) :
    Placed :=
  let column := min column.toNat line.length
  if marginWidth tabWidth line = max 0 target then ⟨line, column⟩
  else
    ⟨withMargin target.toNat line,
      columnWithMargin target.toNat column line⟩

/-- Moves a line to a column if its margin can be measured. -/
def moveTo
    (style : Style)
    (line : Text)
    (column target : Int) :
    Except MarginError Placed :=
  (marginWidth? style.tabWidth line).map fun _ =>
    aligned style.tabWidth line column target

end ClauseEditor.Indent
