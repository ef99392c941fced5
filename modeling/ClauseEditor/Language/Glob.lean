import ClauseEditor.Text.CodePoint

/-!
# File name patterns

A pattern is matched against a whole file name.  A star stands for any run
of characters, a question mark for any one character, and a set in brackets
for one of its members, or for one character outside it if the set starts
with an exclamation mark.  A bracket that is never closed stands for itself.

A hyphen between two members of a set makes a range.  A range whose ends are
in the wrong order is dropped; a set in which nothing is left matches
nothing, and everything if it is negated.
-/

namespace ClauseEditor.Language

/-- One element of a pattern. -/
inductive GlobItem where
  | anyRun
  | anyOne
  | never
  | exactly (c : CodePoint)
  | oneOf (negated : Bool) (ranges : List (CodePoint × CodePoint))
deriving DecidableEq

namespace GlobItem

/-- Whether one character fits an item; no single one fits a star. -/
def fits (item : GlobItem) (c : CodePoint) : Bool :=
  match item with
  | anyRun => false
  | anyOne => true
  | never => false
  | exactly expected => c = expected
  | oneOf negated ranges =>
    ranges.any (fun range => range.1.val ≤ c.val && c.val ≤ range.2.val)
      != negated

/-! ## Sets -/

/-- The body of a set whose bracket has been read, and the rest after it. -/
def setBody? (text : Text) : Option (Text × Text) :=
  let (mark, text) := text.splitLeading '!'
  let (bracket, text) := text.splitLeading ']'
  (text.cut? ']').map fun parts => (mark ++ bracket ++ parts.1, parts.2)

/--
Cuts the body of a set at the hyphens that make ranges.  The first `kept`
characters hold none, and neither do the two after such a hyphen.
-/
def cutAtHyphens (kept : Nat) (body : Text) : Nat → List Text
  | 0 => [body]
  | fuel + 1 =>
    match Text.cut? (body.drop kept) '-' with
    | none => [body]
    | some (piece, rest) =>
      (body.take kept ++ piece) :: cutAtHyphens 2 rest fuel

/-- A hyphen at the very end of a set stands for itself. -/
def keepLastHyphen : List Text → List Text
  | [piece, []] => [piece ++ Text.ofString "-"]
  | piece :: pieces => piece :: keepLastHyphen pieces
  | [] => []

/-- Puts a piece before the others; an empty range between them is dropped. -/
def joinRange (piece : Text) (pieces : List Text) : List Text :=
  match pieces with
  | [] => [piece]
  | following :: more =>
    match piece.getLast?, following.head? with
    | some low, some high =>
      if high.val < low.val then
        (piece.dropLast ++ following.drop 1) :: more
      else piece :: pieces
    | _, _ => piece :: pieces

/-- The pieces as one sequence, with `none` for each hyphen between them. -/
def withHyphens (pieces : List Text) : List (Option CodePoint) :=
  ([none].intercalate (pieces.map fun piece => piece.map some))

/-- A hyphen that makes no range stands for itself. -/
def member (element : Option CodePoint) : CodePoint :=
  element.getD '-'

/-- The ranges of a sequence of members and hyphens. -/
def rangesOf : List (Option CodePoint) → List (CodePoint × CodePoint)
  | [] => []
  | [element] => [(member element, member element)]
  | low :: none :: high :: rest => (member low, member high) :: rangesOf rest
  | element :: rest => (member element, member element) :: rangesOf rest

/-- The item of a set with the given body. -/
def ofSet (body : Text) : GlobItem :=
  let kept := if body.head? = some (CodePoint.ofChar '!') then 2 else 1
  let pieces := keepLastHyphen (cutAtHyphens kept body body.length)
  let elements := withHyphens (pieces.foldr joinRange [])
  match elements with
  | [] => never
  | first :: rest =>
    if first = some (CodePoint.ofChar '!') then
      if rest = [] then anyOne else oneOf true (rangesOf rest)
    else oneOf false (rangesOf elements)

end GlobItem

/-- The items of a pattern; its length bounds the fuel that it needs. -/
def globItems : Nat → Text → List GlobItem
  | 0, _ => []
  | _ + 1, [] => []
  | fuel + 1, c :: rest =>
    if c = '*' then .anyRun :: globItems fuel rest
    else if c = '?' then .anyOne :: globItems fuel rest
    else if c = '[' then
      match GlobItem.setBody? rest with
      | none => .exactly c :: globItems fuel rest
      | some (body, rest) => .ofSet body :: globItems fuel rest
    else .exactly c :: globItems fuel rest

/-- The ends of a text, from the whole text down to the empty one. -/
def suffixes : Text → List Text
  | [] => [[]]
  | c :: rest => (c :: rest) :: suffixes rest

/-- Whether a name consists of what the items stand for. -/
def fitsItems : List GlobItem → Text → Bool
  | [], name => name.isEmpty
  | .anyRun :: items, name => (suffixes name).any (fitsItems items)
  | item :: items, name =>
    match name with
    | [] => false
    | c :: rest => item.fits c && fitsItems items rest

/-- Whether a pattern matches a whole name. -/
def globMatches (pattern name : Text) : Bool :=
  fitsItems (globItems pattern.length pattern) name

end ClauseEditor.Language
