import ClauseEditor.Text.CodePoint

/-!
# UTF-16

A document counts positions in UTF-16 units, so it holds its text as a list
of units.  Decoding joins each high surrogate with a low one that follows it
and keeps every other surrogate as a code point of its own.  Hence every list
of units is the encoding of its decoding, `encode_decode`, although a text in
which two lone halves stand side by side is not the decoding of its encoding.
-/

namespace ClauseEditor

/-- A number of 16 bits. -/
structure CodeUnit where
  val : Nat
  isLt : val < 0x10000
deriving DecidableEq

namespace CodeUnit

instance : Inhabited CodeUnit := ⟨⟨0, by decide⟩⟩

@[ext]
theorem ext
    {left right : CodeUnit}
    (equal : left.val = right.val) :
    left = right := by
  cases left
  cases right
  cases equal
  rfl

/-- The unit of a number below `2 ^ 16`. -/
def ofNat (n : Nat) : CodeUnit :=
  ⟨n % 0x10000, Nat.mod_lt _ (by decide)⟩

theorem val_ofNat {n : Nat} (h : n < 0x10000) : (ofNat n).val = n :=
  Nat.mod_eq_of_lt h

/-- The unit of an ASCII character. -/
abbrev ofChar (c : Char) : CodeUnit :=
  ofNat c.toNat

/-- The first half of a surrogate pair. -/
def isHigh (unit : CodeUnit) : Bool :=
  0xD800 ≤ unit.val && unit.val ≤ 0xDBFF

/-- The second half of a surrogate pair. -/
def isLow (unit : CodeUnit) : Bool :=
  0xDC00 ≤ unit.val && unit.val ≤ 0xDFFF

/-- The code point of a single unit. -/
def single (unit : CodeUnit) : CodePoint :=
  ⟨unit.val, Nat.lt_trans unit.isLt (by decide)⟩

/-- The code point of a surrogate pair. -/
def joined (high low : CodeUnit) : CodePoint :=
  CodePoint.ofNat
    (0x10000 + (high.val - 0xD800) * 0x400 + (low.val - 0xDC00))

end CodeUnit

namespace Utf16

/-- The units of one code point. -/
def encodeOne (c : CodePoint) : List CodeUnit :=
  if c.val < 0x10000 then [.ofNat c.val]
  else
    [.ofNat (0xD800 + (c.val - 0x10000) / 0x400),
      .ofNat (0xDC00 + (c.val - 0x10000) % 0x400)]

/-- The units of a text. -/
def encode (text : Text) : List CodeUnit :=
  text.flatMap encodeOne

/-- The text of a list of units. -/
def decode : List CodeUnit → Text
  | [] => []
  | [unit] => [unit.single]
  | first :: second :: rest =>
    if first.isHigh && second.isLow then
      CodeUnit.joined first second :: decode rest
    else first.single :: decode (second :: rest)

/-- Every surrogate belongs to a pair. -/
def isWellFormed : List CodeUnit → Bool
  | [] => true
  | [unit] => !unit.isHigh && !unit.isLow
  | first :: second :: rest =>
    if first.isHigh then second.isLow && isWellFormed rest
    else !first.isLow && isWellFormed (second :: rest)

theorem encodeOne_single (unit : CodeUnit) :
    encodeOne unit.single = [unit] := by
  have bound := unit.isLt
  simp only [encodeOne, CodeUnit.single, bound, if_true, List.cons.injEq,
    and_true]
  exact CodeUnit.ext (CodeUnit.val_ofNat bound)

theorem encodeOne_joined
    {high low : CodeUnit}
    (isHigh : high.isHigh = true)
    (isLow : low.isLow = true) :
    encodeOne (CodeUnit.joined high low) = [high, low] := by
  simp only [CodeUnit.isHigh, CodeUnit.isLow, Bool.and_eq_true,
    decide_eq_true_eq] at isHigh isLow
  have value :
      (CodeUnit.joined high low).val =
        0x10000 + (high.val - 0xD800) * 0x400 + (low.val - 0xDC00) :=
    CodePoint.val_ofNat (by omega)
  simp only [encodeOne, value]
  rw [if_neg (by omega)]
  simp only [List.cons.injEq, and_true]
  constructor
  · apply CodeUnit.ext
    rw [CodeUnit.val_ofNat] <;> omega
  · apply CodeUnit.ext
    rw [CodeUnit.val_ofNat] <;> omega

/-- No unit is lost by decoding. -/
@[simp]
theorem encode_decode (units : List CodeUnit) :
    encode (decode units) = units := by
  fun_induction decode units with
  | case1 => rfl
  | case2 unit => simp [encode, encodeOne_single]
  | case3 first second rest pair induction =>
      simp only [Bool.and_eq_true] at pair
      simp only [encode, List.flatMap_cons,
        encodeOne_joined pair.1 pair.2] at induction ⊢
      simp [induction]
  | case4 first second rest pair induction =>
      simp only [encode, List.flatMap_cons, encodeOne_single] at induction ⊢
      simp [induction]

end Utf16

end ClauseEditor
