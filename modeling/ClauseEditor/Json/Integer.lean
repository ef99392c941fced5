import ClauseEditor.Json.Value
import ClauseEditor.Text.Blank
import ClauseEditor.Text.DecimalDigit
import ClauseEditor.Text.Quoted

/-!
# Values as integers

A size or a width may be given as any value that stands for an integer: an
integer, a truth value, a number, whose fraction is dropped, or a numeral in
a string.  A numeral may have white space around it, a sign, digits of any
script and single underscores between digits.
-/

namespace ClauseEditor.Json

/-- The kinds of values, by which a value of no use is reported. -/
inductive Kind where
  | null
  | bool
  | integer
  | number
  | string
  | array
  | object
deriving DecidableEq

def kind : Json → Kind
  | .null => .null
  | .bool _ => .bool
  | .integer _ => .integer
  | .number _ => .number
  | .string _ => .string
  | .array _ => .array
  | .object _ => .object

/-- Why a value does not stand for an integer. -/
inductive IntegerError where
  /-- The string is no numeral. -/
  | notNumeral (text : Text)
  | notANumber
  | infinite
  /-- A value of that kind never stands for an integer. -/
  | unusable (kind : Kind)
  /-- A value of that kind cannot be added to an integer. -/
  | notAddable (kind : Kind)
deriving DecidableEq

/--
The value of digits that single underscores may separate; `value` stands for
the digits before, and a digit must come next if `digitDue`.
-/
def digitsFrom? (digitDue : Bool) (value : Nat) : Text → Option Nat
  | [] => if digitDue then none else some value
  | c :: rest =>
    match c.digitValue? with
    | some digit => digitsFrom? false (value * 10 + digit) rest
    | none =>
      if c = '_' ∧ digitDue = false then digitsFrom? true value rest
      else none

/-- White space around a numeral, which information separators are not. -/
def isSpace (c : CodePoint) : Bool :=
  c.isBlank && !c.within [(0x1C, 0x1F)]

/-- The integer that a numeral denotes. -/
def numeral? (text : Text) : Option Int :=
  let text :=
    ((text.dropWhile isSpace).reverse.dropWhile isSpace).reverse
  match text with
  | [] => none
  | c :: rest =>
    if c = '-' then (digitsFrom? true 0 rest).map fun size => -size
    else if c = '+' then (digitsFrom? true 0 rest).map Int.ofNat
    else (digitsFrom? true 0 text).map Int.ofNat

def ofBool (value : Bool) : Int :=
  if value then 1 else 0

/-- The integer part of a number. -/
def truncated (value : Binary64) : Except IntegerError Int :=
  match value with
  | .nan => .error .notANumber
  | .infinite _ => .error .infinite
  | value => .ok (value.truncate?.getD 0)

/-- The integer that a value stands for. -/
def toInteger : Json → Except IntegerError Int
  | .integer value => .ok value
  | .bool value => .ok (ofBool value)
  | .number value => truncated value
  | .string value =>
    match numeral? value with
    | some denoted => .ok denoted
    | none => .error (.notNumeral value)
  | value => .error (.unusable value.kind)

/-- The integer part of the sum of an integer and a value. -/
def addedTo (base : Int) : Json → Except IntegerError Int
  | .integer value => .ok (base + value)
  | .bool value => .ok (base + ofBool value)
  | .number value => truncated (value.addInt base)
  | value => .error (.notAddable value.kind)

/-- Whether a value counts as true: it is not empty, zero, false or null. -/
def isTruthy : Json → Bool
  | .null => false
  | .bool value => value
  | .integer value => value ≠ 0
  | .number (.finite _ mantissa _) => mantissa ≠ 0
  | .number _ => true
  | .string value => !value.isEmpty
  | .array items => !items.isEmpty
  | .object members => !members.isEmpty

end ClauseEditor.Json
