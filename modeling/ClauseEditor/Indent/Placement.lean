import ClauseEditor.Indent.Memo
import ClauseEditor.Text.Blank
import ClauseEditor.Text.Word

/-!
# Where a line belongs

A line starts as many units in as brackets enclose it, shifted by a number
of units that depends on how the line begins and on how the nearest line of
code above it ends.  The placements are tried in a fixed order and the first
that applies decides.
-/

namespace ClauseEditor.Indent

open ClauseEditor.Scallop

/-- The code of a line and of the nearest line with code above it, stripped. -/
structure Surroundings where
  own : Text
  above : Text
deriving DecidableEq

/-- The reasons for a line's indentation. -/
inductive Placement where
  | closingBracket
  | subtype
  | ruleDefinition
  | afterContinuation
  | continuation
  | base
deriving DecidableEq

/-- Whether a text holds no word character at its start. -/
def endsWordBefore (text : Text) : Bool :=
  !(text.head?.any CodePoint.isWord)

/-- Whether a rule marker starts the text. -/
def startsWithRuleMarker (text : Text) : Bool :=
  ruleMarkers.any text.startsWith

/-- Whether a connective starts the text as a whole word. -/
def startsWithConnective (text : Text) : Bool :=
  connectives.any fun word =>
    text.startsWith word && endsWordBefore (text.drop word.length)

/-- Whether `part` ends `text`. -/
def endsWith (text part : Text) : Bool :=
  part.isSuffixOf text

/-- Whether a connective ends the text as a whole word. -/
def endsWithConnective (text : Text) : Bool :=
  connectives.any fun word =>
    endsWith text word &&
      endsWordBefore ((text.take (text.length - word.length)).reverse)

namespace Placement

/-- All placements in the order in which they are tried. -/
def inOrder : List Placement :=
  [closingBracket, subtype, ruleDefinition, afterContinuation, continuation,
    base]

/-- Whether a placement fits a line. -/
def applies (placement : Placement) (surroundings : Surroundings) : Bool :=
  match placement with
  | closingBracket =>
    surroundings.own.head?.any fun (c : CodePoint) =>
      c = ')' || c.val = 0x7D
  | subtype => surroundings.own.startsWith subtypeMarker
  | ruleDefinition => surroundings.own.startsWith (Text.ofString ":-")
  | afterContinuation =>
    ruleMarkers.any (endsWith surroundings.above) ||
      endsWithConnective surroundings.above ||
      endsWith surroundings.above (Text.ofString ",")
  | continuation =>
    startsWithRuleMarker surroundings.own ||
      startsWithConnective surroundings.own
  | base => true

/-- The first placement that fits a line. -/
def of (surroundings : Surroundings) : Placement :=
  (inOrder.find? (applies · surroundings)).getD base

/-- How many units a placement adds to the depth of the line. -/
def shift : Placement → Int
  | closingBracket => -1
  | base => 0
  | _ => 2

/-- The name of a placement in reports. -/
def label : Placement → Text
  | closingBracket => Text.ofString "closing-bracket"
  | subtype => Text.ofString "subtype"
  | ruleDefinition => Text.ofString "rule-definition"
  | afterContinuation => Text.ofString "after-continuation"
  | continuation => Text.ofString "continuation"
  | base => Text.ofString "base"

end Placement

/--
The stripped code of the nearest of the first `count` lines that has any,
from the bottom up.
-/
def codeAbove (memo : Memo) (lines : List Text) : Nat → Text × Memo
  | 0 => ([], memo)
  | line + 1 =>
    let (code, memo) := memo.codeOf lines line
    if Text.strip code = [] then codeAbove memo lines line
    else (Text.strip code, memo)

/-- What decides the placement of a line. -/
def surroundingsOf
    (memo : Memo)
    (lines : List Text)
    (index : Int) :
    Surroundings × Memo :=
  let (own, memo) := memo.codeOf lines index
  let (above, memo) := codeAbove memo lines (Memo.clampIndex lines index)
  (⟨Text.strip own, above⟩, memo)

/-- The placement of a line. -/
def placementOf
    (memo : Memo)
    (lines : List Text)
    (index : Int) :
    Placement × Memo :=
  let (surroundings, memo) := surroundingsOf memo lines index
  (Placement.of surroundings, memo)

/-- The columns of one level and the width of a tab stop. -/
structure Style where
  unit : Int
  tabWidth : Int
deriving DecidableEq

/-- Two columns a level and a tab stop every eight. -/
def Style.standard : Style := ⟨2, 8⟩

/-- The column at which a line belongs; never negative. -/
def columnOf
    (memo : Memo)
    (lines : List Text)
    (index : Int)
    (style : Style) :
    Int × Memo :=
  let (depth, memo) := memo.depthAt lines index
  let (placement, memo) := placementOf memo lines index
  (max 0 (depth * style.unit + placement.shift * style.unit), memo)

end ClauseEditor.Indent
