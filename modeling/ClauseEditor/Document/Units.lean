import ClauseEditor.Text.Utf16

/-!
# The content of a document

The content is one list of UTF-16 units, in which the paragraph separator
U+2029 stands between two lines.  Every kind of line end becomes a separator
when text enters the document, so a line never holds one.

A position counts units, separators included.  When the content is read as
plain text, separators and line separators become line feeds and no-break
spaces become spaces; the content itself keeps the latter two.
-/

namespace ClauseEditor.Document

/-- The unit between two lines. -/
def separator : CodeUnit := .ofNat 0x2029

/-- Units that end a line wherever text is put in. -/
def endsLine (unit : CodeUnit) : Bool :=
  unit.val = 0x0A || unit.val = 0x0D || unit.val = 0x2029 ||
    unit.val = 0xFDD0 || unit.val = 0xFDD1

/-- Text as it enters the document: each line end becomes one separator. -/
def normalised : List CodeUnit → List CodeUnit
  | [] => []
  | [unit] => if endsLine unit then [separator] else [unit]
  | unit :: next :: rest =>
    if unit.val = 0x0D ∧ next.val = 0x0A then separator :: normalised rest
    else if endsLine unit then separator :: normalised (next :: rest)
    else unit :: normalised (next :: rest)

/-- The lines between the separators; there is at least one. -/
def linesOf : List CodeUnit → List (List CodeUnit)
  | [] => [[]]
  | unit :: rest =>
    if unit = separator then [] :: linesOf rest
    else
      match linesOf rest with
      | [] => [[unit]]
      | line :: lines => (unit :: line) :: lines

/-- The lines as texts. -/
def textsOf (content : List CodeUnit) : List Text :=
  (linesOf content).map Utf16.decode

/-- The number of the line in which a position lies. -/
def lineAt (content : List CodeUnit) (position : Nat) : Nat :=
  (content.take position).count separator

/-- The position at which a line starts. -/
def lineStart (content : List CodeUnit) (line : Nat) : Nat :=
  ((linesOf content).take line).foldr
    (fun units start => units.length + 1 + start) 0

/-- The distance of a position from the start of its line. -/
def columnAt (content : List CodeUnit) (position : Nat) : Nat :=
  position - lineStart content (lineAt content position)

/-- Where a position is in the lines of a content; both numbers count from 0. -/
structure Place where
  line : Nat
  column : Nat
deriving DecidableEq

/-- The place of a position. -/
def placeAt (content : List CodeUnit) (position : Nat) : Place :=
  ⟨lineAt content position, columnAt content position⟩

/-- How a unit appears in plain text. -/
def plainUnit (unit : CodeUnit) : CodeUnit :=
  if unit.val = 0x2028 ∨ unit.val = 0x2029 ∨ unit.val = 0xFDD0 ∨
      unit.val = 0xFDD1 then .ofNat 0x0A
  else if unit.val = 0xA0 then .ofNat 0x20
  else unit

/-- The content as plain text. -/
def plainText (content : List CodeUnit) : Text :=
  Utf16.decode (content.map plainUnit)

/-- The content of a document that is given a text. -/
def contentOf (text : Text) : List CodeUnit :=
  normalised (Utf16.encode text)

theorem linesOf_ne_nil (content : List CodeUnit) :
    linesOf content ≠ [] := by
  cases content with
  | nil => simp [linesOf]
  | cons unit rest =>
      rw [linesOf]
      split
      · simp
      · split <;> simp

theorem length_linesOf (content : List CodeUnit) :
    (linesOf content).length = content.count separator + 1 := by
  induction content with
  | nil => rfl
  | cons unit rest induction =>
      rw [linesOf]
      by_cases same : unit = separator
      · simp [same, induction]
      · rw [if_neg same]
        split
        · rename_i none
          exact absurd none (linesOf_ne_nil rest)
        · rename_i line lines some
          rw [some] at induction
          simpa [List.count_cons, same] using induction

end ClauseEditor.Document
