import ClauseEditor.Document.Continuation
import ClauseEditor.Document.Draft

/-!
# History

A document remembers the steps that led to its content and the steps that
were taken back.  An edit block is a step of its own, unless it has no change.
A change outside of edit blocks that goes on where the latest step ended
becomes a part of that step, unless the document is unmodified; an edit block
can be gone on with by typing only.  Any change forgets what had been taken
back.

The document counts as unmodified in the state in which it was last marked
so, and undoing or redoing up to that state makes it unmodified again.

What a single key removes is one change here.  The units of it may have been
written at different times, and the toolkit then makes a step of each piece.
-/

namespace ClauseEditor

namespace Document

/-- What holds the changes of a draft together. -/
inductive Span where
  /-- Nothing does; there is no more than one change. -/
  | single
  /-- An edit block, begun with the cursor at `cursor?` if it was begun by one. -/
  | block (cursor? : Option Nat)
deriving DecidableEq

/-- The cursor that began an edit block. -/
def Span.cursor? : Span → Option Nat
  | single => none
  | block cursor? => cursor?

/-- One step of the history. -/
structure Step where
  /-- The changes in the order in which they were made. -/
  changes : List Change
  /-- Where the cursor stood, if that was not where the step began to change. -/
  cursorBefore : Option Nat
  /-- Whether an edit block began the step. -/
  isBlock : Bool
  /-- How many units the document had been written before the step. -/
  written : Nat
deriving DecidableEq

namespace Step

/-- Where the cursor is put after the step has been undone. -/
def cursorAfterUndo (step : Step) : Nat :=
  match step.cursorBefore, step.changes.head? with
  | some position, _ => position
  | none, none => 0
  | none, some change =>
    match change.kind with
    | .insertion => change.position
    | .removal => change.position + change.units.length

/-- Where the cursor is put after the step has been redone. -/
def cursorAfterRedo (step : Step) : Nat :=
  match step.changes.getLast? with
  | none => 0
  | some change =>
    match change.kind with
    | .insertion => change.position + change.units.length
    | .removal => change.position

/--
The step and a change that goes on where the step ended, in a document with the
numbering `before` when the step began and with `written` units written now.
-/
def continued?
    (step : Step)
    (change : Change)
    (before : Numbering)
    (written : Nat) :
    Option Step :=
  match step.changes.getLast? with
  | none => none
  | some last =>
    if step.isBlock ∧ last.kind = .removal then none
    else
      let began : Numbering := { before with next := step.written }
      let between := step.changes.dropLast.foldl Numbering.after began
      let now := { between.after last with next := written }
      (last.continued? change (between.ofChange last)
        (now.ofChange change)).map fun whole =>
          { step with changes := step.changes.dropLast ++ [whole] }

end Step

/-- The numbering of a document that was given `count` units, after some steps. -/
def numberingAfter (count : Nat) (past : List Step) : Numbering :=
  past.foldr
    (fun step numbering =>
      step.changes.foldl Numbering.after
        { numbering with next := step.written })
    (.start count)

/-- The least position of some changes. -/
def firstChanged? (changes : List Change) : Option Nat :=
  (changes.map Change.position).min?

end Document

open Document

/-- A content with its history. -/
structure Document where
  content : List CodeUnit
  /-- The steps that led here, the latest first. -/
  past : List Document.Step
  /-- The steps taken back, the one to redo first at the front. -/
  future : List Document.Step
  /-- How many steps led to the state that counts as saved, if it can be reached. -/
  saved : Option Nat
  /-- How many units there were at first. -/
  given : Nat
  /-- How many units have been written so far, those taken out again included. -/
  written : Nat
deriving DecidableEq

namespace Document

/-- A document that has just been given its text. -/
def ofText (text : Text) : Document where
  content := contentOf text
  past := []
  future := []
  saved := some 0
  given := (contentOf text).length
  written := (contentOf text).length

def isModified (document : Document) : Bool :=
  document.saved ≠ some document.past.length

/-- Marks the present state as the one that counts as saved. -/
def markSaved (document : Document) : Document :=
  { document with saved := some document.past.length }

/-- The lines of the document. -/
def lines (document : Document) : List Text :=
  textsOf document.content

/-- The past with a change that goes on where the latest step ended. -/
def continuedPast? (document : Document) (change : Change) :
    Option (List Step) :=
  match document.past with
  | [] => none
  | step :: past =>
    if document.isModified then
      (step.continued? change (numberingAfter document.given past)
        document.written).map (· :: past)
    else none

/-- A step of its own for some changes. -/
def newStep (document : Document) (changes : List Change) (span : Span) :
    Step where
  changes := changes
  cursorBefore :=
    span.cursor?.filter (some · ≠ changes.head?.map Change.position)
  isBlock := span ≠ .single
  written := document.written

/-- The past with some changes, in a step of their own if need be. -/
def pastWith
    (document : Document)
    (changes : List Change)
    (span : Span) :
    List Step :=
  let added := document.newStep changes span :: document.past
  match span, changes with
  | .single, [change] => (document.continuedPast? change).getD added
  | _, _ => added

/-- The document with the changes of a draft. -/
def commit (document : Document) (draft : Draft) (span : Span) : Document :=
  if draft.changes = [] then document
  else
    { document with
      content := draft.content
      past := document.pastWith draft.changes.reverse span
      future := []
      saved := document.saved.filter (· ≤ document.past.length)
      written := document.written + writtenBy draft.changes }

/-- Takes the latest step back; the draft shows what that does. -/
def undo? (document : Document) (cursor : Cursor) :
    Option (Document × Step × Draft) :=
  match document.past with
  | [] => none
  | step :: past =>
    let draft :=
      (step.changes.reverse.map Change.inverse).foldl Draft.apply
        (.start document.content cursor)
    let undone :=
      { document with
        content := draft.content
        past
        future := step :: document.future }
    some (undone, step, draft)

/-- Makes the step again that was taken back last. -/
def redo? (document : Document) (cursor : Cursor) :
    Option (Document × Step × Draft) :=
  match document.future with
  | [] => none
  | step :: future =>
    let draft :=
      step.changes.foldl Draft.apply (.start document.content cursor)
    let redone :=
      { document with
        content := draft.content
        past := step :: document.past
        future }
    some (redone, step, draft)

end Document

end ClauseEditor
