import ClauseEditor.Document.Change

/-!
# Edits under way

A draft collects the changes of one edit block.  It holds the content and the
cursor as they stand, and the changes so far.  The end of the edit block turns
it into one step of the history.
-/

namespace ClauseEditor.Document

structure Draft where
  content : List CodeUnit
  cursor : Cursor
  /-- The changes so far, the latest first. -/
  changes : List Change
  /-- Whether a change has touched the cursor. -/
  touched : Bool
deriving DecidableEq

namespace Draft

/-- An edit block without changes. -/
def start (content : List CodeUnit) (cursor : Cursor) : Draft :=
  ⟨content, cursor, [], false⟩

/-- Carries out a change; one that has no units is none. -/
def apply (draft : Draft) (change : Change) : Draft :=
  if change.units = [] then draft
  else
    ⟨change.apply draft.content, draft.cursor.move change,
      change :: draft.changes,
      draft.touched || change.touches draft.cursor.position⟩

/-- Puts text in at a position; line ends in it become separators. -/
def insert (draft : Draft) (position : Nat) (text : Text) : Draft :=
  draft.apply (.insert position (contentOf text))

/-- Takes out what stands between two positions. -/
def remove (draft : Draft) (first last : Nat) : Draft :=
  draft.apply (.remove draft.content first last false)

/-- Takes out the selection, which a backward cursor does in place. -/
def removeSelection (draft : Draft) : Draft :=
  let cursor := draft.cursor
  draft.apply (.remove draft.content cursor.first cursor.last
    (cursor.position < cursor.anchor))

/-- Puts text in at the cursor, in place of the selection. -/
def type (draft : Draft) (text : Text) : Draft :=
  let draft := draft.removeSelection
  draft.insert draft.cursor.position text

end Draft

end ClauseEditor.Document
