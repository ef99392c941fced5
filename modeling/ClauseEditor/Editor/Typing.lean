import ClauseEditor.Editor.LineEditing
import ClauseEditor.Text.Mark
import ClauseEditor.Text.Printable

/-!
# Typing

An opening bracket brings its closing one along and the cursor goes between
the two.  A closing bracket that is next to the cursor already is stepped
over instead of put in a second time.  A round or curly bracket that closes
at the start of its line moves the line to its column.

A key that removes a selection, or puts a character in its place, is an edit
block; any other key makes a single change, which goes on with the latest step
if it can.  The reindentation that a bracket causes is an edit block of its own.
-/

namespace ClauseEditor.Editor

open Document

/-- The keys that the editor handles beside characters. -/
inductive Key where
  | enter
  | tab
  | backtab
  | backspace
  | delete
deriving DecidableEq

/-! ## Removing characters -/

/-- Where the character before a position starts; a surrogate pair is one. -/
def characterBefore (content : List CodeUnit) (position : Nat) : Nat :=
  match (content.take position).reverse with
  | low :: high :: _ =>
    if low.isLow && high.isHigh then position - 2 else position - 1
  | _ => position - 1

/-- Where the character after a position ends, with the marks that attach to it. -/
def characterAfter (content : List CodeUnit) (position : Nat) : Nat :=
  match content.drop position with
  | [] => position
  | unit :: rest =>
    if unit = separator then position + 1
    else
      match Utf16.decode ((unit :: rest).takeWhile (· ≠ separator)) with
      | [] => position
      | c :: others =>
        position +
          (Utf16.encode (c :: others.takeWhile CodePoint.attaches)).length

/-- What holds the changes of a key together. -/
def keySpan (editor : Editor) : Span :=
  if editor.cursor.hasSelection then .block none else .single

/-- Removes the selection, or else the character before the cursor. -/
def eraseBackward (editor : Editor) : Outcome :=
  let position := editor.cursor.position
  let draft :=
    if editor.cursor.hasSelection then editor.draft.removeSelection
    else editor.draft.remove (characterBefore editor.content position) position
  (editor.finish draft editor.memo editor.keySpan).revealed

/-- Removes the selection, or else the character after the cursor. -/
def eraseForward (editor : Editor) : Outcome :=
  let position := editor.cursor.position
  let draft :=
    if editor.cursor.hasSelection then editor.draft.removeSelection
    else
      editor.draft.apply
        (.remove editor.content position
          (characterAfter editor.content position) true)
  (editor.finish draft editor.memo editor.keySpan).revealed

/-! ## Characters -/

/--
Whether a character key puts its character in.  Format characters always go
in.  Of the others, those that can be seen, separators, private characters and
the tab go in unless Control is held.  A character beyond the Basic
Multilingual Plane is judged by the surrogate pair that it is, not by its kind:
it goes in unless Control is held.
-/
def isTyped (c : CodePoint) (control : Bool) : Bool :=
  if c.val < 0x10000 then
    c.isFormat ||
      (!control &&
        (c.isPrintable || c.isOtherSeparator || c.isPrivateUse || c = '\t'))
  else !control

/-- An opening bracket and the bracket that closes it. -/
def bracketPairs : List (CodePoint × CodePoint) :=
  [(CodePoint.ofChar '(', CodePoint.ofChar ')'),
    (CodePoint.ofChar '[', CodePoint.ofChar ']'),
    (CodePoint.ofNat 0x7B, CodePoint.ofNat 0x7D)]

/-- The closing bracket that belongs to a character. -/
def closing? (c : CodePoint) : Option CodePoint :=
  (bracketPairs.find? fun pair => pair.1 = c).map Prod.snd

def isClosing (c : CodePoint) : Bool :=
  bracketPairs.any fun pair => pair.2 = c

/-- The closing brackets that move their line. -/
def electricBrackets : List Text :=
  [Text.ofString ")", Text.ofString "\x7d"]

/-- Puts a character in, in place of the selection. -/
def putIn (editor : Editor) (c : CodePoint) : Outcome :=
  editor.finish (editor.draft.type [c]) editor.memo editor.keySpan

/-- Puts the character of a key in, if the key puts it in. -/
def typePlain (editor : Editor) (c : CodePoint) (control : Bool) : Outcome :=
  if isTyped c control then (editor.putIn c).revealed else editor.stay

/--
Puts a pair of brackets in and goes between the two.  With Control held the
opening one is left out.
-/
def typePair
    (editor : Editor)
    (opening close : CodePoint)
    (control : Bool) :
    Outcome :=
  let opened := editor.typePlain opening control
  let closed := opened.andThen fun editor => editor.putIn close
  closed.andThen fun editor =>
    editor.placeCursor (.atPosition (editor.cursor.position - 1))

/-- Steps over a closing bracket that is next to the cursor, or puts it in. -/
def typeClosing (editor : Editor) (c : CodePoint) (control : Bool) : Outcome :=
  let position := editor.cursor.position
  if editor.cursor.hasSelection = false ∧
      (editor.content.drop position).head?.map CodeUnit.single = some c then
    editor.placeCursor (.atPosition (characterAfter editor.content position))
  else editor.typePlain c control

/-- The stripped text of the cursor's line up to the cursor's column. -/
def textBeforeCursor (editor : Editor) : Text :=
  let line := (textsOf editor.content).getD editor.cursorLine []
  Text.strip (line.take editor.cursorColumn)

/-- Moves the line of the cursor if a bracket alone stands before the cursor. -/
def settleBracket (editor : Editor) : Outcome :=
  if editor.textBeforeCursor ∈ electricBrackets then editor.reindentLine
  else editor.stay

/-- Types a character, perhaps with Control held. -/
def typeCharacter (editor : Editor) (c : CodePoint) (control : Bool) : Outcome :=
  match closing? c with
  | some close => editor.typePair c close control
  | none =>
    if isClosing c then
      let outcome := editor.typeClosing c control
      if [c] ∈ electricBrackets then outcome.andThen settleBracket else outcome
    else editor.typePlain c control

/-- Presses a key other than a character. -/
def pressKey (editor : Editor) : Key → Outcome
  | .enter => editor.breakLine
  | .tab =>
    if editor.cursor.hasSelection then editor.reindentSelection
    else editor.reindentLine
  | .backtab => editor.outdentSelection
  | .backspace => editor.eraseBackward
  | .delete => editor.eraseForward

end ClauseEditor.Editor
