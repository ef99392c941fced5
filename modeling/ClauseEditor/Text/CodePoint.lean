/-!
# Code points and text

A text is a list of Unicode code points.  Halves of surrogate pairs count as
code points of their own: a document can be cut in the middle of a pair, and
a settings file can name one half by an escape, so `Char`, which excludes
them, is too small.

Every `Char` is a code point, and string constants of this library enter as
texts through `Text.ofString`.
-/

namespace ClauseEditor

/-- A number that Unicode may assign, surrogate halves included. -/
structure CodePoint where
  val : Nat
  isLt : val < 0x110000
deriving DecidableEq

namespace CodePoint

@[ext]
theorem ext
    {left right : CodePoint}
    (equal : left.val = right.val) :
    left = right := by
  cases left
  cases right
  cases equal
  rfl

/-- The code point of a scalar value. -/
def ofChar (c : Char) : CodePoint where
  val := c.toNat
  isLt := by
    have valid : c.toNat.isValidChar := c.valid
    rcases valid with low | high
    · omega
    · exact high.2

instance : Coe Char CodePoint := ⟨ofChar⟩

instance : Inhabited CodePoint := ⟨' '⟩

@[simp]
theorem val_ofChar (c : Char) : (ofChar c).val = c.toNat := rfl

theorem ofChar_inj {left right : Char} :
    ofChar left = ofChar right ↔ left = right := by
  constructor
  · intro equal
    exact Char.toNat_inj.1 (congrArg val equal)
  · exact congrArg ofChar

/-- The code point of that number; the replacement character past the last. -/
def ofNat (n : Nat) : CodePoint :=
  if h : n < 0x110000 then ⟨n, h⟩ else ⟨0xFFFD, by decide⟩

theorem val_ofNat {n : Nat} (h : n < 0x110000) : (ofNat n).val = n := by
  simp [ofNat, h]

@[simp]
theorem ofNat_val (c : CodePoint) : ofNat c.val = c := by
  simp [ofNat, c.isLt]

/-- The first half of a surrogate pair. -/
def isHighHalf (c : CodePoint) : Bool :=
  0xD800 ≤ c.val && c.val ≤ 0xDBFF

/-- The second half of a surrogate pair. -/
def isLowHalf (c : CodePoint) : Bool :=
  0xDC00 ≤ c.val && c.val ≤ 0xDFFF

/-- The scalar value, unless the code point is half of a surrogate pair. -/
def toChar? (c : CodePoint) : Option Char :=
  if h : c.val.isValidChar then some (Char.ofNatAux c.val h) else none

/--
Membership in a table of closed ranges `(first, last)` that are listed in
ascending order.
-/
def within (c : CodePoint) : List (Nat × Nat) → Bool
  | [] => false
  | (first, last) :: rest =>
    if c.val < first then false
    else if c.val ≤ last then true
    else c.within rest

end CodePoint

/-- A line, a file or any other string. -/
abbrev Text := List CodePoint

namespace Text

/-- The text of a string constant. -/
def ofString (s : String) : Text :=
  s.toList.map CodePoint.ofChar

/-- A run of spaces. -/
abbrev spaces (count : Nat) : Text :=
  List.replicate count ' '

/-- The text as a string; `none` when it holds half of a surrogate pair. -/
def toString? (text : Text) : Option String :=
  (text.mapM CodePoint.toChar?).map String.ofList

/-- The decimal digits of a natural number. -/
def ofNat (n : Nat) : Text :=
  (Nat.toDigits 10 n).map CodePoint.ofChar

/-- A run of zero digits. -/
abbrev zeros (count : Nat) : Text :=
  List.replicate count '0'

/-- The sign of a number: a minus or nothing. -/
def minusIf (negative : Bool) : Text :=
  if negative then ofString "-" else []

/-- The decimal digits of an integer, after a minus sign if it is negative. -/
def ofInt (n : Int) : Text :=
  minusIf (n < 0) ++ ofNat n.natAbs

/-- Whether `part` starts `text`. -/
abbrev startsWith (text part : Text) : Bool :=
  part.isPrefixOf text

/-- A leading `c` as a text of its own, and the rest. -/
def splitLeading (text : Text) (c : CodePoint) : Text × Text :=
  if text.head? = some c then ([c], text.drop 1) else ([], text)

/-- What stands before and after the first `c` of a text. -/
def cut? (text : Text) (c : CodePoint) : Option (Text × Text) :=
  match text with
  | [] => none
  | first :: rest =>
    if first = c then some ([], rest)
    else (cut? rest c).map fun parts => (first :: parts.1, parts.2)

/-- The first position at which `part` occurs in `text`. -/
def indexOf? (text part : Text) : Option Nat :=
  match text with
  | [] => if part = [] then some 0 else none
  | _ :: rest =>
    if startsWith text part then some 0
    else (indexOf? rest part).map (· + 1)

/-- The first position from `start` on at which `part` occurs in `text`. -/
def indexFrom? (text part : Text) (start : Nat) : Option Nat :=
  if start ≤ text.length then
    (indexOf? (text.drop start) part).map (start + ·)
  else none

/-- The texts one after another with `separator` between neighbours. -/
def join (separator : Text) (parts : List Text) : Text :=
  (parts.intersperse separator).flatten

/--
The pieces between the occurrences of `separator`; there is one piece more
than there are occurrences.
-/
def splitOn (separator : CodePoint) : Text → List Text
  | [] => [[]]
  | c :: rest =>
    if c = separator then [] :: splitOn separator rest
    else
      match splitOn separator rest with
      | [] => [[c]]
      | piece :: pieces => (c :: piece) :: pieces

/-- The lines of a text, which line feeds separate. -/
abbrev lines (text : Text) : List Text :=
  text.splitOn '\n'

/-- The text whose lines these are. -/
abbrev ofLines (lines : List Text) : Text :=
  join ['\n'] lines

end Text

end ClauseEditor
