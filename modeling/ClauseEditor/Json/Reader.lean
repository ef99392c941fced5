import ClauseEditor.Json.Value

/-!
# Reading JSON

The reader takes the JSON grammar with three more numbers, `NaN`, `Infinity`
and `-Infinity`.  An escape may name half of a surrogate pair; two escapes in
a row that name the two halves of a pair give one character.  A control
character inside a string is an error.

Every function here consumes at least one character or gives up a level of
nesting for each unit of `fuel`, so the length of the text bounds the fuel
that a text needs.
-/

namespace ClauseEditor.Json

/-- Spaces, tabs and line ends between tokens. -/
def isSeparator (c : CodePoint) : Bool :=
  c = ' ' || c = '\t' || c = '\n' || c = '\r'

def skipSeparators (text : Text) : Text :=
  text.dropWhile isSeparator

/-- The rest of the text after `word`, if `word` starts it. -/
def after? (word : String) (text : Text) : Option Text :=
  if text.startsWith (Text.ofString word) then
    some (text.drop word.length)
  else none

/-! ## Strings -/

/-- The value of a hexadecimal digit of either case. -/
def hexValue? (c : CodePoint) : Option Nat :=
  if 0x30 ≤ c.val ∧ c.val ≤ 0x39 then some (c.val - 0x30)
  else if 0x41 ≤ c.val ∧ c.val ≤ 0x46 then some (c.val - 0x37)
  else if 0x61 ≤ c.val ∧ c.val ≤ 0x66 then some (c.val - 0x57)
  else none

/-- The UTF-16 unit of four hexadecimal digits, and the rest. -/
def readUnit? : Text → Option (Nat × Text)
  | first :: second :: third :: fourth :: rest => do
    let a ← hexValue? first
    let b ← hexValue? second
    let c ← hexValue? third
    let d ← hexValue? fourth
    some (((a * 16 + b) * 16 + c) * 16 + d, rest)
  | _ => none

/-- The lower half of a surrogate pair, if an escape for one comes next. -/
def readLowHalf? (text : Text) : Option (Nat × Text) := do
  let digits ← after? "\\u" text
  let (unit, rest) ← readUnit? digits
  if 0xDC00 ≤ unit ∧ unit ≤ 0xDFFF then some (unit, rest) else none

/-- The character of an escape whose backslash has been read, and the rest. -/
def readEscape? : Text → Option (CodePoint × Text)
  | [] => none
  | c :: rest =>
    if c = '"' ∨ c = '\\' ∨ c = '/' then some (c, rest)
    else if c = 'b' then some (CodePoint.ofNat 0x08, rest)
    else if c = 'f' then some (CodePoint.ofNat 0x0C, rest)
    else if c = 'n' then some ('\n', rest)
    else if c = 'r' then some ('\r', rest)
    else if c = 't' then some ('\t', rest)
    else if c = 'u' then do
      let (unit, rest) ← readUnit? rest
      if 0xD800 ≤ unit ∧ unit ≤ 0xDBFF then
        match readLowHalf? rest with
        | some (low, rest) =>
          some (CodePoint.ofNat
            (0x10000 + (unit - 0xD800) * 0x400 + (low - 0xDC00)), rest)
        | none => some (CodePoint.ofNat unit, rest)
      else some (CodePoint.ofNat unit, rest)
    else none

/-- A string whose opening quote has been read, and the rest after its end. -/
def readString? : Nat → Text → Option (Text × Text)
  | 0, _ => none
  | _ + 1, [] => none
  | fuel + 1, c :: rest =>
    if c = '"' then some ([], rest)
    else if c = '\\' then do
      let (shown, rest) ← readEscape? rest
      let (text, rest) ← readString? fuel rest
      some (shown :: text, rest)
    else if c.val < 0x20 then none
    else do
      let (text, rest) ← readString? fuel rest
      some (c :: text, rest)

/-! ## Numbers -/

def isDigit (c : CodePoint) : Bool :=
  0x30 ≤ c.val && c.val ≤ 0x39

/-- The number that a run of digits denotes. -/
def digitsValue (digits : Text) : Nat :=
  digits.foldl (fun value c => value * 10 + (c.val - 0x30)) 0

/-- The digits before the point: a zero stands alone. -/
def readWhole? (text : Text) : Option (Text × Text) :=
  match text with
  | [] => none
  | c :: rest =>
    if c = '0' then some ([c], rest)
    else if isDigit c then
      some (text.takeWhile isDigit, text.dropWhile isDigit)
    else none

/-- The digits after a point; without any the point is not part of the number. -/
def readFraction (text : Text) : Option Text × Text :=
  match text with
  | point :: rest =>
    if point = '.' ∧ (rest.takeWhile isDigit) ≠ [] then
      (some (rest.takeWhile isDigit), rest.dropWhile isDigit)
    else (none, text)
  | [] => (none, text)

/-- The exponent; without digits the letter is not part of the number. -/
def readExponent (text : Text) : Option Int × Text :=
  match text with
  | letter :: rest =>
    if letter = 'e' ∨ letter = 'E' then
      let (negative, digits) :=
        match rest with
        | sign :: after =>
          if sign = '-' then (true, after)
          else if sign = '+' then (false, after)
          else (false, rest)
        | [] => (false, rest)
      if digits.takeWhile isDigit = [] then (none, text)
      else
        let size : Int := digitsValue (digits.takeWhile isDigit)
        (some (if negative then -size else size), digits.dropWhile isDigit)
    else (none, text)
  | [] => (none, text)

/-- A number whose sign has been read. -/
def readUnsigned? (negative : Bool) (text : Text) : Option (Json × Text) := do
  let (whole, rest) ← readWhole? text
  let (fraction, rest) := readFraction rest
  let (exponent, rest) := readExponent rest
  match fraction, exponent with
  | none, none =>
    let size : Int := digitsValue whole
    some (.integer (if negative then -size else size), rest)
  | _, _ =>
    let places := fraction.getD []
    some (.number (.ofDecimal negative (digitsValue (whole ++ places))
      (exponent.getD 0 - places.length)), rest)

/-! ## Values -/

mutual

/-- A value at the start of the text, and the rest. -/
def readValue? : Nat → Text → Option (Json × Text)
  | 0, _ => none
  | _ + 1, [] => none
  | fuel + 1, c :: rest =>
    if c = '"' then do
      let (text, rest) ← readString? fuel rest
      some (.string text, rest)
    else if c = '[' then
      match skipSeparators rest with
      | [] => none
      | next :: after =>
        if next = ']' then some (.array [], after)
        else do
          let (items, rest) ← readItems? fuel (next :: after)
          some (.array items, rest)
    else if c.val = 0x7B then
      match skipSeparators rest with
      | [] => none
      | next :: after =>
        if next.val = 0x7D then some (.object [], after)
        else do
          let (members, rest) ← readMembers? fuel (next :: after)
          some (.object (Members.ofList members), rest)
    else if c = 'n' then (after? "ull" rest).map fun rest => (.null, rest)
    else if c = 't' then (after? "rue" rest).map fun rest => (.bool true, rest)
    else if c = 'f' then (after? "alse" rest).map fun rest => (.bool false, rest)
    else if c = 'N' then (after? "aN" rest).map fun rest => (.number .nan, rest)
    else if c = 'I' then
      (after? "nfinity" rest).map fun rest => (.number (.infinite false), rest)
    else if c = '-' then
      match after? "Infinity" rest with
      | some rest => some (.number (.infinite true), rest)
      | none => readUnsigned? true rest
    else readUnsigned? false (c :: rest)

/-- The items of an array, from one of them to the closing bracket. -/
def readItems? : Nat → Text → Option (List Json × Text)
  | 0, _ => none
  | fuel + 1, text => do
    let (item, rest) ← readValue? fuel text
    match skipSeparators rest with
    | [] => none
    | next :: after =>
      if next = ']' then some ([item], after)
      else if next = ',' then do
        let (items, rest) ← readItems? fuel (skipSeparators after)
        some (item :: items, rest)
      else none

/-- The members of an object as given, from one of them to the closing brace. -/
def readMembers? : Nat → Text → Option (List (Text × Json) × Text)
  | 0, _ => none
  | _ + 1, [] => none
  | fuel + 1, c :: text =>
    if c = '"' then do
      let (key, rest) ← readString? fuel text
      let rest ← after? ":" (skipSeparators rest)
      let (value, rest) ← readValue? fuel (skipSeparators rest)
      match skipSeparators rest with
      | [] => none
      | next :: after =>
        if next.val = 0x7D then some ([(key, value)], after)
        else if next = ',' then do
          let (members, rest) ← readMembers? fuel (skipSeparators after)
          some ((key, value) :: members, rest)
        else none
    else none

end

/-- The value that the whole text denotes. -/
def read? (text : Text) : Option Json := do
  let (value, rest) ← readValue? (2 * text.length + 2) (skipSeparators text)
  if skipSeparators rest = [] then some value else none

end ClauseEditor.Json
