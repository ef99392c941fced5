import ClauseEditor.Indent.Scan

/-!
# Remembered boundaries

A memo keeps the boundaries after the first lines of a document.  A question
about a line extends it down to that line; an edit cuts it back to the lines
above the edit.  A memo is coherent with a document as long as it is cut back
at or above the first line that changed; one that is not keeps answering from
the boundaries that it remembers.
-/

namespace ClauseEditor.Indent

/-- The boundaries after lines `0, 1, …` of a document. -/
structure Memo where
  boundaries : List Boundary
deriving DecidableEq

namespace Memo

def empty : Memo := ⟨[]⟩

/-- How many lines the memo covers. -/
def size (memo : Memo) : Nat :=
  memo.boundaries.length

/-- Forgets all lines from `line` on; a negative number forgets everything. -/
def cutAt (memo : Memo) (line : Int) : Memo :=
  ⟨memo.boundaries.take line.toNat⟩

/-- The boundaries after each of the lines, when the first starts at `boundary`. -/
def boundariesAfter (boundary : Boundary) : List Text → List Boundary
  | [] => []
  | line :: lines =>
    boundary.after line :: boundariesAfter (boundary.after line) lines

/-- The boundary after the last line that the memo covers. -/
def last (memo : Memo) : Boundary :=
  memo.boundaries.getLast?.getD .start

/-- Extends the memo to the first `count` lines of the document. -/
def extendTo (memo : Memo) (lines : List Text) (count : Nat) : Memo :=
  if count ≤ memo.size then memo
  else
    ⟨memo.boundaries ++
      boundariesAfter memo.last ((lines.take count).drop memo.size)⟩

/-- The line number that an index stands for: negative ones mean the first line. -/
def clampIndex (lines : List Text) (index : Int) : Nat :=
  min index.toNat lines.length

/-- The boundary before a line, and the memo extended to that line. -/
def boundaryBefore
    (memo : Memo)
    (lines : List Text)
    (index : Int) :
    Boundary × Memo :=
  let line := clampIndex lines index
  let memo := memo.extendTo lines line
  match line with
  | 0 => (.start, memo)
  | above + 1 => (memo.boundaries.getD above .start, memo)

/-- The code text of a line; a line that is not there has none. -/
def codeOf
    (memo : Memo)
    (lines : List Text)
    (index : Int) :
    Text × Memo :=
  if index < 0 then ([], memo)
  else
    match lines[index.toNat]? with
    | none => ([], memo)
    | some line =>
      let (boundary, memo) := memo.boundaryBefore lines index
      ((boundary.scan line).code, memo)

/-- The depth of the brackets that enclose the start of a line. -/
def depthAt
    (memo : Memo)
    (lines : List Text)
    (index : Int) :
    Int × Memo :=
  let (boundary, memo) := memo.boundaryBefore lines index
  (boundary.depth, memo)

end Memo

end ClauseEditor.Indent
