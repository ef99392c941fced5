import ClauseEditor.Proofs.Json.Numeral

/-!
# The grammar of JSON texts

A text denotes a value by the rules that follow, and each rule gives the text
of a construct together with what it denotes.  Nothing is said about what
stands behind a construct, and nothing is left over in front of it.

The grammar is the usual one with three more numbers.  The members of an
object are kept as they are given, with keys that may occur more than once;
only the value of an object tells which of them count.
-/

namespace ClauseEditor.Json

/-- Separators and nothing else. -/
def Blank (text : Text) : Prop :=
  ∀ c ∈ text, isSeparator c = true

instance (text : Text) : Decidable (Blank text) :=
  inferInstanceAs (Decidable (∀ c ∈ text, isSeparator c = true))

/-! ## Strings -/

/-- A hexadecimal digit of either case, and its value. -/
def IsHexDigit (c : CodePoint) (value : Nat) : Prop :=
  (Text.ofString "0123456789abcdef")[value]? = some c ∨
    (Text.ofString "0123456789ABCDEF")[value]? = some c

instance (c : CodePoint) (value : Nat) : Decidable (IsHexDigit c value) :=
  inferInstanceAs (Decidable (_ ∨ _))

/-- The four digits of a UTF-16 unit. -/
inductive IsUnit : Text → Nat → Prop
  | digits
      {first second third fourth : CodePoint}
      {a b c d : Nat}
      (firstDigit : IsHexDigit first a)
      (secondDigit : IsHexDigit second b)
      (thirdDigit : IsHexDigit third c)
      (fourthDigit : IsHexDigit fourth d) :
      IsUnit [first, second, third, fourth] (((a * 16 + b) * 16 + c) * 16 + d)

/-- The first half of a surrogate pair. -/
def IsFirstHalf (unit : Nat) : Prop :=
  0xD800 ≤ unit ∧ unit ≤ 0xDBFF

/-- The second half of a surrogate pair. -/
def IsSecondHalf (unit : Nat) : Prop :=
  0xDC00 ≤ unit ∧ unit ≤ 0xDFFF

/-- What a backslash and a unit are written as. -/
abbrev unitEscape (digits : Text) : Text :=
  Text.ofString "\\u" ++ digits

/-- A text that does not start with the escape of a second half. -/
def StartsAlone (text : Text) : Prop :=
  ∀ digits unit rest,
    IsUnit digits unit → IsSecondHalf unit → text ≠ unitEscape digits ++ rest

/-- The letters of the short escapes, and the numbers of their characters. -/
def shortEscapes : List (Char × Nat) :=
  [('"', 0x22), ('\\', 0x5C), ('/', 0x2F), ('b', 0x08), ('f', 0x0C),
    ('n', 0x0A), ('r', 0x0D), ('t', 0x09)]

/--
An escape in front of a text, and its character.  Two units in a row that are
the halves of a pair are one character; any other half is a character of its
own.
-/
inductive IsEscape (behind : Text) : Text → CodePoint → Prop
  | short
      {letter : Char}
      {number : Nat}
      (listed : (letter, number) ∈ shortEscapes) :
      IsEscape behind [CodePoint.ofChar '\\', CodePoint.ofChar letter]
        (CodePoint.ofNat number)
  | unit
      {digits : Text}
      {unit : Nat}
      (isUnit : IsUnit digits unit)
      (alone : IsFirstHalf unit → StartsAlone behind) :
      IsEscape behind (unitEscape digits) (CodePoint.ofNat unit)
  | pair
      {firstDigits secondDigits : Text}
      {first second : Nat}
      (isFirst : IsUnit firstDigits first)
      (isSecond : IsUnit secondDigits second)
      (firstHalf : IsFirstHalf first)
      (secondHalf : IsSecondHalf second) :
      IsEscape behind (unitEscape firstDigits ++ unitEscape secondDigits)
        (CodePoint.ofNat
          (0x10000 + (first - 0xD800) * 0x400 + (second - 0xDC00)))

/-- A text between quotes, and the string that it spells. -/
inductive Spells : Text → Text → Prop
  | nil : Spells [] []
  | plain
      {c : CodePoint}
      {body shown : Text}
      (noQuote : c ≠ '"')
      (noBackslash : c ≠ '\\')
      (noControl : 0x20 ≤ c.val)
      (rest : Spells body shown) :
      Spells (c :: body) (c :: shown)
  | escape
      {c : CodePoint}
      {escape body shown : Text}
      (isEscape : IsEscape body escape c)
      (rest : Spells body shown) :
      Spells (escape ++ body) (c :: shown)

/-- A text between quotes. -/
abbrev quotation (body : Text) : Text :=
  Text.ofString "\"" ++ body ++ Text.ofString "\""

/-! ## Numbers -/

/-- The part of a numeral behind the point, and its digits. -/
inductive IsFraction : Text → Text → Prop
  | absent : IsFraction [] []
  | places
      {places : Text}
      (digits : Digits places)
      (notEmpty : places ≠ []) :
      IsFraction (Text.ofString "." ++ places) places

/-- The sign of an exponent, if it has one, and whether it is a minus. -/
inductive IsSign : Bool → Text → Prop
  | absent : IsSign false []
  | plus : IsSign false (Text.ofString "+")
  | minus : IsSign true (Text.ofString "-")

/-- The exponent of a numeral, and its value. -/
inductive IsExponent : Text → Int → Prop
  | absent : IsExponent [] 0
  | present
      {letter : CodePoint}
      {negative : Bool}
      {sign digits : Text}
      (isLetter : letter = 'e' ∨ letter = 'E')
      (isSign : IsSign negative sign)
      (all : Digits digits)
      (notEmpty : digits ≠ []) :
      IsExponent (letter :: (sign ++ digits))
        (if negative then -(digitsValue digits : Int) else digitsValue digits)

/--
A numeral without its sign, and the value that it denotes with the sign.  It
denotes an integer if it has neither a fraction nor an exponent.
-/
inductive IsNumeral (negative : Bool) : Text → Json → Prop
  | integer
      {whole : Text}
      (front : Whole whole) :
      IsNumeral negative whole
        (.integer
          (if negative then -(digitsValue whole : Int) else digitsValue whole))
  | number
      {whole fraction places exponent : Text}
      {scale : Int}
      (front : Whole whole)
      (isFraction : IsFraction fraction places)
      (isExponent : IsExponent exponent scale)
      (notEmpty : fraction ≠ [] ∨ exponent ≠ []) :
      IsNumeral negative (whole ++ (fraction ++ exponent))
        (.number (.ofDecimal negative (digitsValue (whole ++ places))
          (scale - places.length)))

/-! ## Values -/

mutual

/-- The text of a value, from its first character to its last. -/
inductive IsValue : Text → Json → Prop
  | null : IsValue (Text.ofString "null") .null
  | true : IsValue (Text.ofString "true") (.bool true)
  | false : IsValue (Text.ofString "false") (.bool false)
  | nan : IsValue (Text.ofString "NaN") (.number .nan)
  | infinity (negative : Bool) :
      IsValue (Text.minusIf negative ++ Text.ofString "Infinity")
        (.number (.infinite negative))
  | numeral
      {negative : Bool}
      {text : Text}
      {value : Json}
      (isNumeral : IsNumeral negative text value) :
      IsValue (Text.minusIf negative ++ text) value
  | string
      {body shown : Text}
      (spells : Spells body shown) :
      IsValue (quotation body) (.string shown)
  | array
      {inside : Text}
      {items : List Json}
      (areItems : AreItems inside items) :
      IsValue (Text.ofString "[" ++ inside ++ Text.ofString "]") (.array items)
  | object
      {inside : Text}
      {given : Members}
      (areMembers : AreMembers inside given) :
      IsValue (Text.ofString "\x7b" ++ inside ++ Text.ofString "\x7d")
        (.object (Members.ofList given))

/-- The text of a value with separators around it. -/
inductive Denotes : Text → Json → Prop
  | around
      {before text after : Text}
      {value : Json}
      (blankBefore : Blank before)
      (isValue : IsValue text value)
      (blankAfter : Blank after) :
      Denotes (before ++ (text ++ after)) value

/-- What stands between the brackets of an array. -/
inductive AreItems : Text → List Json → Prop
  | empty
      {text : Text}
      (blank : Blank text) :
      AreItems text []
  | last
      {text : Text}
      {item : Json}
      (denotes : Denotes text item) :
      AreItems text [item]
  | more
      {text others : Text}
      {item : Json}
      {items : List Json}
      (denotes : Denotes text item)
      (areItems : AreItems others items)
      (notEmpty : items ≠ []) :
      AreItems (text ++ (Text.ofString "," ++ others)) (item :: items)

/-- A key in quotes, a colon and a value. -/
inductive IsMember : Text → Text × Json → Prop
  | pair
      {before body after text key : Text}
      {value : Json}
      (blankBefore : Blank before)
      (spells : Spells body key)
      (blankAfter : Blank after)
      (denotes : Denotes text value) :
      IsMember
        (before ++ (quotation body ++ (after ++ (Text.ofString ":" ++ text))))
        (key, value)

/-- What stands between the braces of an object. -/
inductive AreMembers : Text → Members → Prop
  | empty
      {text : Text}
      (blank : Blank text) :
      AreMembers text []
  | last
      {text : Text}
      {member : Text × Json}
      (isMember : IsMember text member) :
      AreMembers text [member]
  | more
      {text others : Text}
      {member : Text × Json}
      {members : Members}
      (isMember : IsMember text member)
      (areMembers : AreMembers others members)
      (notEmpty : members ≠ []) :
      AreMembers (text ++ (Text.ofString "," ++ others)) (member :: members)

end

/--
A text that is an object, with separators around it, and its members as they
are given.
-/
def DenotesObject (text : Text) (given : Members) : Prop :=
  ∃ before inside after,
    Blank before ∧ AreMembers inside given ∧ Blank after ∧
      text =
        before ++
          (Text.ofString "\x7b" ++ inside ++ Text.ofString "\x7d" ++ after)

theorem denotes_object_iff {text : Text} {members : Members} :
    Denotes text (.object members) ↔
      ∃ given, DenotesObject text given ∧ members = Members.ofList given := by
  constructor
  · rintro ⟨blankBefore, isValue, blankAfter⟩
    cases isValue with
    | numeral isNumeral => cases isNumeral
    | object areMembers =>
        exact ⟨_, ⟨_, _, _, blankBefore, areMembers, blankAfter, rfl⟩, rfl⟩
  · rintro ⟨given, ⟨before, inside, after, blankBefore, areMembers, blankAfter,
      rfl⟩, rfl⟩
    exact .around blankBefore (.object areMembers) blankAfter

end ClauseEditor.Json
