import ClauseEditor.Document.Units

/-!
# Looking up lines

Lines are looked up by number.  Negative numbers count from the end, and a
slice picks lines from a start to a stop in steps; its bounds are cut to the
ends of the document.
-/

namespace ClauseEditor.Document

/-- Why a look-up has no answer. -/
inductive LookupError where
  /-- No line has that number, which has been counted from the start. -/
  | outOfRange (index : Int)
  | zeroStep
deriving DecidableEq

/-- The line with a number. -/
def lineNumbered (lines : List Text) (index : Int) : Except LookupError Text :=
  let counted := if index < 0 then index + lines.length else index
  if counted < 0 then .error (.outOfRange counted)
  else
    match lines[counted.toNat]? with
    | some line => .ok line
    | none => .error (.outOfRange counted)

/-- Which lines a slice picks; a bound that is left out is the end on its side. -/
structure Slice where
  start : Option Int
  stop : Option Int
  step : Option Int
deriving DecidableEq

/-- The numbers `start`, `start + step`, … that come before `stop`. -/
def progression (start stop step : Int) : List Int :=
  let distance := if 0 < step then stop - start else start - stop
  let count :=
    if distance ≤ 0 then 0 else (distance - 1) / step.natAbs + 1
  (List.range count.toNat).map fun (position : Nat) => start + position * step

/-- The line numbers of a slice of `count` lines, for a step that is not zero. -/
def Slice.numbers (slice : Slice) (count : Nat) : List Int :=
  let step := slice.step.getD 1
  let low : Int := if 0 < step then 0 else -1
  let high : Int := if 0 < step then count else count - 1
  let cut (bound : Int) : Int :=
    if bound < 0 then max (bound + count) low else min bound high
  let start := (slice.start.map cut).getD (if 0 < step then low else high)
  let stop := (slice.stop.map cut).getD (if 0 < step then high else low)
  progression start stop step

/-- The lines of a slice. -/
def linesSliced
    (lines : List Text)
    (slice : Slice) :
    Except LookupError (List Text) :=
  if slice.step = some 0 then .error .zeroStep
  else (slice.numbers lines.length).mapM (lineNumbered lines)

end ClauseEditor.Document
