import ClauseEditor.Scallop.Vocabulary
import ClauseEditor.Text.Utf16

/-!
# Recognising tokens in a line

A recogniser looks at the units from some position on, and at the unit
before, and says whether its kind of token starts there.  Searching a line
takes the leftmost tokens that do not overlap: after a token the search goes
on behind it.

Word characters, digits and blanks are those of ASCII here, so that letters
of other scripts separate words.
-/

namespace ClauseEditor.Highlight

/-- A stretch of units of a line. -/
structure Span where
  start : Nat
  length : Nat
deriving DecidableEq

/-- Whether a position lies in a stretch. -/
def Span.covers (span : Span) (position : Nat) : Bool :=
  span.start ≤ position && position < span.start + span.length

/--
A recognised token: `total` units are used up, of which `length` from
`offset` on are shown.
-/
structure Token where
  offset : Nat
  length : Nat
  total : Nat
deriving DecidableEq

/-- A token that is shown whole. -/
def Token.whole (length : Nat) : Token := ⟨0, length, length⟩

/-- Looks for a token at the start of some units, given the unit before. -/
abbrev Recogniser := Option CodeUnit → List CodeUnit → Option Token

/-! ## Characters -/

def isDigit (unit : CodeUnit) : Bool :=
  0x30 ≤ unit.val && unit.val ≤ 0x39

def isLetter (unit : CodeUnit) : Bool :=
  (0x41 ≤ unit.val && unit.val ≤ 0x5A) || (0x61 ≤ unit.val && unit.val ≤ 0x7A)

/-- A letter or an underscore. -/
def isNameStart (unit : CodeUnit) : Bool :=
  isLetter unit || unit.val = 0x5F

def isWord (unit : CodeUnit) : Bool :=
  isNameStart unit || isDigit unit

def isHexDigit (unit : CodeUnit) : Bool :=
  isDigit unit || (0x41 ≤ unit.val && unit.val ≤ 0x46) ||
    (0x61 ≤ unit.val && unit.val ≤ 0x66)

def isBinaryDigit (unit : CodeUnit) : Bool :=
  unit.val = 0x30 || unit.val = 0x31

/-- A space or one of the control characters from the tab to the carriage return. -/
def isBlank (unit : CodeUnit) : Bool :=
  unit.val = 0x20 || (0x09 ≤ unit.val && unit.val ≤ 0x0D)

/-- No word goes on into these units. -/
def wordEnds (units : List CodeUnit) : Bool :=
  !(units.head?.any isWord)

/-! ## Recognisers -/

/-- The first of the given texts that starts here. -/
def oneOf (texts : List (List CodeUnit)) : Recogniser :=
  fun _ units =>
    (texts.find? fun text => text.isPrefixOf units).map
      fun text => .whole text.length

/-- One of the given words, with no word character on either side. -/
def wholeWord (words : List (List CodeUnit)) : Recogniser :=
  fun before units =>
    if before.any isWord then none
    else
      (words.find? fun word =>
        word.isPrefixOf units && wordEnds (units.drop word.length)).map
        fun word => .whole word.length

/-- The length of a name at the start of the units; zero if there is none. -/
def nameLength (units : List CodeUnit) : Nat :=
  if units.head?.any isNameStart then (units.takeWhile isWord).length else 0

/-- An at sign with a name. -/
def attributeName : Recogniser :=
  fun _ units =>
    if units.head? = some (.ofChar '@') ∧ nameLength (units.drop 1) ≠ 0 then
      some (.whole (1 + nameLength (units.drop 1)))
    else none

/-- The length of a numeral with a two-letter mark in front of its digits. -/
def markedLength
    (mark : List CodeUnit)
    (isMember : CodeUnit → Bool)
    (units : List CodeUnit) :
    Nat :=
  let digits := (units.drop mark.length).takeWhile isMember
  if mark.isPrefixOf units ∧ digits ≠ [] ∧
      wordEnds (units.drop (mark.length + digits.length)) then
    mark.length + digits.length
  else 0

/-- The length of a decimal numeral; without its fraction if that ends in a word. -/
def decimalLength (units : List CodeUnit) : Nat :=
  let whole := units.takeWhile isDigit
  let rest := units.drop whole.length
  let fraction :=
    if rest.head? = some (.ofChar '.') then (rest.drop 1).takeWhile isDigit
    else []
  let total := whole.length + 1 + fraction.length
  if whole = [] then 0
  else if fraction ≠ [] ∧ wordEnds (units.drop total) then total
  else if wordEnds rest then whole.length
  else 0

/-- A hexadecimal, binary or decimal numeral that is no part of a word. -/
def numeral : Recogniser :=
  fun before units =>
    let lengths :=
      [markedLength [.ofChar '0', .ofChar 'x'] isHexDigit units,
        markedLength [.ofChar '0', .ofChar 'b'] isBinaryDigit units,
        decimalLength units]
    if before.any isWord then none
    else (lengths.find? (· ≠ 0)).map .whole

/-- A name after one of the given words and at least one blank. -/
def nameAfter (words : List (List CodeUnit)) : Recogniser :=
  fun before units =>
    if before.any isWord then none
    else
      words.findSome? fun word =>
        let rest := units.drop word.length
        let gap := (rest.takeWhile isBlank).length
        let name := nameLength (rest.drop gap)
        if word.isPrefixOf units ∧ gap ≠ 0 ∧ name ≠ 0 then
          some ⟨word.length + gap, name, word.length + gap + name⟩
        else none

/-! ## Search -/

/--
The tokens of a line from `position` on, where `used` more units belong to
the token before.
-/
def tokensFrom
    (recognise : Recogniser)
    (used : Nat)
    (before : Option CodeUnit)
    (position : Nat) :
    List CodeUnit → List Span
  | [] => []
  | unit :: rest =>
    match used with
    | used + 1 => tokensFrom recognise used (some unit) (position + 1) rest
    | 0 =>
      match recognise before (unit :: rest) with
      | none => tokensFrom recognise 0 (some unit) (position + 1) rest
      | some token =>
        ⟨position + token.offset, token.length⟩ ::
          tokensFrom recognise (token.total - 1) (some unit) (position + 1)
            rest

/-- The tokens of a line. -/
def tokens (recognise : Recogniser) (units : List CodeUnit) : List Span :=
  tokensFrom recognise 0 none 0 units

end ClauseEditor.Highlight
