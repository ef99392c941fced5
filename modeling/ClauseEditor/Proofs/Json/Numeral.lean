import Mathlib.Data.List.Basic
import ClauseEditor.Json.Reader
import ClauseEditor.Json.Writer
import ClauseEditor.Proofs.Decimal.Shortest

/-!
# Numerals

A numeral consists of digits before the point, of places after it and of an
exponent, and it is read as soon as nothing that follows could belong to it.
The digits of a natural number are read as this number, so every integer is
read back.

The written form of a shortest decimal differs by where the point is, but
each form stands for the same rational number.  Hence a binary number is read
back too.
-/

namespace ClauseEditor.Json

open Binary64

/-! ## Runs of digits -/

/-- A text of the digits 0 to 9. -/
def Digits (text : Text) : Prop :=
  ∀ c ∈ text, isDigit c = true

/-- No digit stands at the start of a text. -/
def NoDigit (text : Text) : Prop :=
  ∀ c ∈ text.head?, isDigit c = false

section Digits

variable {digits more rest : Text}

theorem Digits.append
    (one : Digits digits)
    (two : Digits more) :
    Digits (digits ++ more) :=
  List.forall_mem_append.mpr ⟨one, two⟩

theorem Digits.take
    (all : Digits digits)
    (count : Nat) :
    Digits (digits.take count) :=
  fun c member => all c (List.mem_of_mem_take member)

theorem Digits.drop
    (all : Digits digits)
    (count : Nat) :
    Digits (digits.drop count) :=
  fun c member => all c (List.mem_of_mem_drop member)

theorem digits_zeros (count : Nat) : Digits (Text.zeros count) := by
  intro c member
  rw [List.eq_of_mem_replicate member]
  rfl

theorem digits_ofNat (n : Nat) : Digits (Text.ofNat n) := by
  intro c member
  rcases List.mem_map.mp member with ⟨digit, inside, rfl⟩
  have bounds :=
    Char.isDigit_iff_toNat.mp
      (Nat.isDigit_of_mem_toDigits (by decide) (by decide) inside)
  rw [isDigit, CodePoint.val_ofChar]
  exact (Bool.and_eq_true _ _).mpr
    ⟨decide_eq_true bounds.1, decide_eq_true bounds.2⟩

/-- A number has at least one digit. -/
theorem ofNat_ne_nil (n : Nat) : Text.ofNat n ≠ [] := by
  rw [Text.ofNat, Ne, List.map_eq_nil_iff]
  exact List.ne_nil_of_length_pos Nat.length_toDigits_pos

theorem takeWhile_digits
    (all : Digits digits)
    (stops : NoDigit rest) :
    (digits ++ rest).takeWhile isDigit = digits := by
  rw [List.takeWhile_append_of_pos all]
  cases rest with
  | nil => rw [List.takeWhile_nil, List.append_nil]
  | cons c rest =>
      have stop := stops c rfl
      rw [List.takeWhile_cons, if_neg (ne_true_of_eq_false stop),
        List.append_nil]

theorem dropWhile_digits
    (all : Digits digits)
    (stops : NoDigit rest) :
    (digits ++ rest).dropWhile isDigit = rest := by
  rw [List.dropWhile_append_of_pos all]
  cases rest with
  | nil => rfl
  | cons c rest =>
      have stop := stops c rfl
      rw [List.dropWhile_cons, if_neg (ne_true_of_eq_false stop)]

/-! ## The number that digits denote -/

theorem digitsValue_append (digits more : Text) :
    digitsValue (digits ++ more) =
      digitsValue digits * 10 ^ more.length + digitsValue more := by
  induction more using List.reverseRecOn with
  | nil => simp [digitsValue]
  | append_singleton more c induction =>
      have next (digits : Text) :
          digitsValue (digits ++ [c]) =
            digitsValue digits * 10 + (c.val - 0x30) := by
        simp [digitsValue, List.foldl_append]
      rw [← List.append_assoc, next, next, induction, List.length_append,
        List.length_singleton, Nat.pow_succ]
      ring

theorem digitsValue_zeros (count : Nat) :
    digitsValue (Text.zeros count) = 0 := by
  induction count with
  | zero => rfl
  | succ count induction =>
      rw [Text.zeros, List.replicate_succ', digitsValue_append, induction]
      rfl

theorem digitsValue_lt
    (all : Digits digits) :
    digitsValue digits < 10 ^ digits.length := by
  induction digits using List.reverseRecOn with
  | nil => exact Nat.one_pos
  | append_singleton digits c induction =>
      have shorter :=
        induction fun d member => all d (List.mem_append_left _ member)
      have last : c.val - 0x30 < 10 := by
        have digit := all c (List.mem_append_right _ (List.mem_singleton_self c))
        rw [isDigit, Bool.and_eq_true, decide_eq_true_eq, decide_eq_true_eq]
          at digit
        omega
      have single : digitsValue [c] = c.val - 0x30 := by
        simp [digitsValue]
      rw [digitsValue_append, single, List.length_append,
        List.length_singleton, pow_one, pow_succ]
      omega

@[simp]
theorem digitsValue_ofNat (n : Nat) :
    digitsValue (Text.ofNat n) = n := by
  have steps (digits : List Char) (value : Nat) :
      (digits.map CodePoint.ofChar).foldl
          (fun value c => value * 10 + (c.val - 0x30)) value =
        Nat.ofDigitChars 10 digits value := by
    rw [List.foldl_map, Nat.ofDigitChars]
    simp only [CodePoint.val_ofChar, Nat.mul_comm 10]
    rfl
  rw [digitsValue, Text.ofNat, steps, Nat.ofDigitChars_ten_toDigits]

end Digits

/-! ## The parts of a numeral -/

/-- Digits that can stand before the point: a leading zero stands alone. -/
structure Whole (text : Text) : Prop where
  digits : Digits text
  leading : text = Text.ofNat 0 ∨ ∃ c rest, text = c :: rest ∧ c ≠ '0'

/-- Nothing that could belong to a numeral stands at the start of a text. -/
def Ends (text : Text) : Prop :=
  ∀ c ∈ text.head?, isDigit c = false ∧ c ≠ '.' ∧ c ≠ 'e' ∧ c ≠ 'E'

section Parts

variable {whole places rest : Text}

theorem Ends.noDigit (ends : Ends rest) : NoDigit rest :=
  fun c first => (ends c first).1

theorem whole_ofNat (n : Nat) : Whole (Text.ofNat n) := by
  refine ⟨digits_ofNat n, ?_⟩
  rcases Nat.eq_zero_or_pos n with rfl | positive
  · exact Or.inl rfl
  · cases shape : Text.ofNat n with
    | nil => exact absurd shape (ofNat_ne_nil n)
    | cons c rest =>
        refine Or.inr ⟨c, rest, rfl, ?_⟩
        rintro rfl
        -- With a zero in front the number would be too small for its length.
        have value := digitsValue_ofNat n
        have zero : digitsValue [CodePoint.ofChar '0'] = 0 :=
          digitsValue_ofNat 0
        have length := congrArg List.length shape
        have small :=
          digitsValue_lt fun d member =>
            digits_ofNat n d (shape ▸ List.mem_cons_of_mem _ member)
        have least := (toDigits_bounds positive).1
        rw [shape, ← List.singleton_append, digitsValue_append] at value
        rw [Text.ofNat, List.length_map, List.length_cons] at length
        rw [length, Nat.add_sub_cancel] at least
        rw [zero] at value
        omega

theorem Whole.append
    (front : Whole whole)
    (all : Digits places)
    (some : whole ≠ Text.ofNat 0) :
    Whole (whole ++ places) := by
  refine ⟨front.digits.append all, Or.inr ?_⟩
  rcases front.leading.resolve_left some with ⟨c, rest, rfl, different⟩
  exact ⟨c, rest ++ places, rfl, different⟩

theorem Whole.take
    (all : Whole whole)
    (some : whole ≠ Text.ofNat 0)
    {count : Nat}
    (positive : 0 < count) :
    Whole (whole.take count) := by
  refine ⟨all.digits.take count, Or.inr ?_⟩
  rcases all.leading.resolve_left some with ⟨c, rest, rfl, different⟩
  rcases Nat.exists_eq_succ_of_ne_zero positive.ne' with ⟨fewer, rfl⟩
  exact ⟨c, rest.take fewer, rfl, different⟩

theorem readWhole?_append
    (front : Whole whole)
    (stops : NoDigit rest) :
    readWhole? (whole ++ rest) = some (whole, rest) := by
  rcases front.leading with rfl | ⟨c, more, rfl, different⟩
  · rfl
  · have digit := front.digits c List.mem_cons_self
    have taken := takeWhile_digits front.digits stops
    have dropped := dropWhile_digits front.digits stops
    rw [List.cons_append] at taken dropped
    rw [List.cons_append, readWhole?, if_neg different, if_pos digit, taken,
      dropped]

theorem readFraction_append
    (all : Digits places)
    (some : places ≠ [])
    (stops : NoDigit rest) :
    readFraction (Text.ofString "." ++ places ++ rest) =
      (.some places, rest) := by
  have taken := takeWhile_digits all stops
  have dropped := dropWhile_digits all stops
  change readFraction (CodePoint.ofChar '.' :: (places ++ rest)) = _
  rw [readFraction, taken, dropped, if_pos ⟨rfl, some⟩]

theorem readFraction_of_ne
    (noPoint : ∀ c ∈ rest.head?, c ≠ '.') :
    readFraction rest = (none, rest) := by
  cases rest with
  | nil => rfl
  | cons c more =>
      have different := noPoint c rfl
      rw [readFraction, if_neg fun point => different point.1]

theorem readExponent_append
    {digits : Text}
    {exponent : Int}
    (all : Digits digits)
    (some : digits ≠ [])
    (value : digitsValue digits = exponent.natAbs)
    (stops : NoDigit rest) :
    readExponent
        (Text.ofString "e" ++ Text.ofString (if exponent < 0 then "-" else "+") ++
          digits ++ rest) =
      (.some exponent, rest) := by
  have taken := takeWhile_digits all stops
  have dropped := dropWhile_digits all stops
  have letter : CodePoint.ofChar 'e' = 'e' ∨ CodePoint.ofChar 'e' = 'E' :=
    Or.inl rfl
  by_cases negative : exponent < 0
  · rw [if_pos negative]
    change readExponent
      (CodePoint.ofChar 'e' :: CodePoint.ofChar '-' :: (digits ++ rest)) = _
    rw [readExponent, if_pos letter]
    dsimp only
    rw [if_pos rfl]
    dsimp only
    rw [taken, dropped, if_neg some, value]
    simp only [if_true, Prod.mk.injEq, Option.some.injEq, and_true]
    omega
  · rw [if_neg negative]
    change readExponent
      (CodePoint.ofChar 'e' :: CodePoint.ofChar '+' :: (digits ++ rest)) = _
    have sign : CodePoint.ofChar '+' ≠ '-' := by decide
    rw [readExponent, if_pos letter]
    dsimp only
    rw [if_neg sign, if_pos rfl]
    dsimp only
    rw [taken, dropped, if_neg some, value]
    simp only [Bool.false_eq_true, if_false, Prod.mk.injEq, Option.some.injEq,
      and_true]
    omega

theorem readExponent_of_ends
    (ends : Ends rest) :
    readExponent rest = (none, rest) := by
  cases rest with
  | nil => rfl
  | cons c more =>
      rcases ends c rfl with ⟨_, _, small, capital⟩
      rw [readExponent.eq_def]
      exact if_neg (not_or.mpr ⟨small, capital⟩)

/-! ## Whole numerals -/

theorem readUnsigned?_whole
    (front : Whole whole)
    (ends : Ends rest)
    (negative : Bool) :
    readUnsigned? negative (whole ++ rest) =
      some (.integer
        (if negative then -(digitsValue whole : Int) else digitsValue whole),
        rest) := by
  have noPoint : ∀ c ∈ rest.head?, c ≠ '.' := fun c first => (ends c first).2.1
  rw [readUnsigned?, readWhole?_append front ends.noDigit]
  simp only [Option.bind_eq_bind, Option.bind_some,
    readFraction_of_ne noPoint, readExponent_of_ends ends]

/-- A numeral with places after the point. -/
theorem readUnsigned?_places
    (front : Whole whole)
    (all : Digits places)
    (some : places ≠ [])
    (ends : Ends rest)
    (negative : Bool) :
    readUnsigned? negative (whole ++ Text.ofString "." ++ places ++ rest) =
      .some (.number (.ofDecimal negative (digitsValue (whole ++ places))
        (0 - places.length)), rest) := by
  have stops : NoDigit (Text.ofString "." ++ places ++ rest) := by
    rintro c ⟨⟩
    rfl
  rw [List.append_assoc whole, List.append_assoc whole, readUnsigned?,
    readWhole?_append front stops]
  simp only [Option.bind_eq_bind, Option.bind_some,
    readFraction_append all some ends.noDigit, readExponent_of_ends ends,
    Option.getD_some, Option.getD_none]

/-- A numeral with an exponent, and perhaps with places after the point. -/
theorem readUnsigned?_exponent
    {digits : Text}
    {exponent : Int}
    (front : Whole whole)
    (all : Digits places)
    (allExponent : Digits digits)
    (someExponent : digits ≠ [])
    (value : digitsValue digits = exponent.natAbs)
    (ends : Ends rest)
    (negative : Bool) :
    readUnsigned? negative
        (whole ++ (if places = [] then [] else Text.ofString "." ++ places) ++
          Text.ofString "e" ++ Text.ofString (if exponent < 0 then "-" else "+") ++
          digits ++ rest) =
      some (.number (.ofDecimal negative (digitsValue (whole ++ places))
        (exponent - places.length)), rest) := by
  have read :=
    readExponent_append allExponent someExponent value ends.noDigit
  have stops (text : Text) : NoDigit (Text.ofString "e" ++ text) := by
    rintro c ⟨⟩
    rfl
  have noPoint {text : Text} :
      ∀ c ∈ (Text.ofString "e" ++ text).head?, c ≠ '.' := by
    rintro c ⟨⟩
    decide
  simp only [List.append_assoc] at read ⊢
  rw [readUnsigned?]
  by_cases none : places = []
  · subst none
    rw [if_pos rfl, List.nil_append, readWhole?_append front (stops _)]
    simp only [Option.bind_eq_bind, Option.bind_some,
      readFraction_of_ne noPoint, read, Option.getD_none, Option.getD_some]
  · have stopsPoint {text : Text} : NoDigit (Text.ofString "." ++ text) := by
      rintro c ⟨⟩
      rfl
    have fraction (text : Text) := readFraction_append all none (stops text)
    simp only [List.append_assoc] at fraction
    rw [if_neg none, List.append_assoc, readWhole?_append front stopsPoint]
    simp only [Option.bind_eq_bind, Option.bind_some, fraction, read,
      Option.getD_some]

end Parts

/-! ## Written numbers -/

section Written

variable {rest : Text}

/-- The digits of a natural number are read as this number. -/
theorem readUnsigned?_ofNat
    (n : Nat)
    (ends : Ends rest)
    (negative : Bool) :
    readUnsigned? negative (Text.ofNat n ++ rest) =
      some (.integer (if negative then -(n : Int) else n), rest) := by
  rw [readUnsigned?_whole (whole_ofNat n) ends, digitsValue_ofNat]

/-- A text that is read as a decimal of some value. -/
def ReadsAs (negative : Bool) (text rest : Text) (value : ℚ) : Prop :=
  ∃ (digits : Nat) (scale : Int),
    readUnsigned? negative (text ++ rest) =
        some (.number (.ofDecimal negative digits scale), rest) ∧
      digits * 10 ^ scale = value

/-! ### Where the point stands -/

section Point

variable
    {digits : Text}
    {point : Int}
    (front : Whole digits)
    (ends : Ends rest)
    (negative : Bool)

include front ends

/-- All digits stand behind the point, after zeros. -/
theorem readsAs_behind_point
    (nonempty : digits ≠ [])
    (small : point ≤ 0) :
    ReadsAs negative (ShortDecimal.positional digits point) rest
      (digitsValue digits * 10 ^ (point - digits.length)) := by
  have all : Digits (Text.zeros (-point).toNat ++ digits) :=
    (digits_zeros _).append front.digits
  have some : Text.zeros (-point).toNat ++ digits ≠ [] :=
    List.append_ne_nil_of_right_ne_nil _ nonempty
  rw [ShortDecimal.positional, if_pos small]
  refine ⟨_, _,
    (congrArg _ ?_).trans
      (readUnsigned?_places (whole_ofNat 0) all some ends negative), ?_⟩
  · simp only [List.append_assoc]
    rfl
  · rw [digitsValue_append, digitsValue_append, digitsValue_zeros,
      digitsValue_ofNat, List.length_append, List.length_replicate,
      Nat.zero_mul, Nat.zero_mul, Nat.zero_add, Nat.zero_add]
    congr 2
    push_cast
    omega

variable
    (some : digits ≠ Text.ofNat 0)
    (large : 0 < point)

include some large

/-- All digits stand in front of the point, and zeros after them. -/
theorem readsAs_in_front_of_point
    (within : digits.length ≤ point) :
    ReadsAs negative (ShortDecimal.positional digits point) rest
      (digitsValue digits * 10 ^ (point - digits.length)) := by
  have longer : Whole (digits ++ Text.zeros (point.toNat - digits.length)) :=
    front.append (digits_zeros _) some
  have single : (Text.ofNat 0).length = 1 := rfl
  have power :
      (10 : ℚ) ^ (point - digits.length) =
        10 ^ (point.toNat - digits.length) := by
    rw [← zpow_natCast]
    congr 1
    omega
  rw [ShortDecimal.positional, if_neg (Int.not_le.mpr large), if_pos within]
  refine ⟨_, _,
    (congrArg _ ?_).trans
      (readUnsigned?_places longer (digits_ofNat 0) (List.cons_ne_nil _ _)
        ends negative), ?_⟩
  · simp only [List.append_assoc]
    rfl
  · rw [digitsValue_append, digitsValue_append, digitsValue_zeros,
      digitsValue_ofNat, List.length_replicate, single, power]
    push_cast
    rw [zpow_neg, zpow_one, add_zero, add_zero]
    exact mul_inv_cancel_right₀ (by norm_num) _

/-- The point stands among the digits. -/
theorem readsAs_around_point
    (inside : point < digits.length) :
    ReadsAs negative (ShortDecimal.positional digits point) rest
      (digitsValue digits * 10 ^ (point - digits.length)) := by
  have before : Whole (digits.take point.toNat) :=
    front.take some (by omega)
  have after : Digits (digits.drop point.toNat) := front.digits.drop _
  have nonempty : digits.drop point.toNat ≠ [] := by
    rw [Ne, List.drop_eq_nil_iff]
    omega
  rw [ShortDecimal.positional, if_neg (Int.not_le.mpr large),
    if_neg (Int.not_le.mpr inside)]
  refine ⟨_, _, readUnsigned?_places before after nonempty ends negative, ?_⟩
  rw [List.take_append_drop, List.length_drop]
  congr 2
  omega

end Point

section Decimal

variable
    {n : Nat}
    (positive : 0 < n)
    (ends : Ends rest)
    (negative : Bool)
    (point : Int)

include positive in
theorem ofNat_ne_zero : Text.ofNat n ≠ Text.ofNat 0 := by
  intro zero
  have value := digitsValue_ofNat n
  rw [zero, digitsValue_ofNat] at value
  exact positive.ne value

include positive ends

/-- The positional form stands for the digits before their point. -/
theorem readsAs_positional :
    ReadsAs negative (ShortDecimal.positional (Text.ofNat n) point) rest
      (n * 10 ^ (point - (Text.ofNat n).length)) := by
  have front := whole_ofNat n
  have some := ofNat_ne_zero positive
  have value : (n : ℚ) = digitsValue (Text.ofNat n) :=
    congrArg Nat.cast (digitsValue_ofNat n).symm
  rw [value]
  rcases Int.lt_or_le 0 point with large | small
  · rcases Int.lt_or_le point (Text.ofNat n).length with inside | within
    · exact readsAs_around_point front ends negative some large inside
    · exact readsAs_in_front_of_point front ends negative some large within
  · exact readsAs_behind_point front ends negative (ofNat_ne_nil n) small

/-- The form with an exponent stands for one digit before its point. -/
theorem readsAs_scientific :
    ReadsAs negative (ShortDecimal.scientific (Text.ofNat n) (point - 1)) rest
      (n * 10 ^ (point - (Text.ofNat n).length)) := by
  have front := whole_ofNat n
  have some := ofNat_ne_zero positive
  have value := digitsValue_ofNat n
  have digit : 0 < (Text.ofNat n).length :=
    List.length_pos_iff.mpr (ofNat_ne_nil n)
  generalize Text.ofNat n = digits at front some value digit ⊢
  rw [ShortDecimal.scientific]
  have size := digitsValue_ofNat (point - 1).natAbs
  have sizeDigits := digits_ofNat (point - 1).natAbs
  have sizeNonempty := ofNat_ne_nil (point - 1).natAbs
  generalize Text.ofNat (point - 1).natAbs = exponent
    at size sizeDigits sizeNonempty ⊢
  have before : Whole (digits.take 1) := front.take some Nat.one_pos
  have after : Digits (digits.drop 1) := front.digits.drop _
  have all : Digits (Text.zeros (2 - exponent.length) ++ exponent) :=
    (digits_zeros _).append sizeDigits
  have nonempty : Text.zeros (2 - exponent.length) ++ exponent ≠ [] :=
    List.append_ne_nil_of_right_ne_nil _ sizeNonempty
  have number :
      digitsValue (Text.zeros (2 - exponent.length) ++ exponent) =
        (point - 1).natAbs := by
    rw [digitsValue_append, digitsValue_zeros, Nat.zero_mul, Nat.zero_add, size]
  refine ⟨_, _,
    (congrArg _ ?_).trans
      (readUnsigned?_exponent before after all nonempty number ends negative), ?_⟩
  · have condition : digits.length ≤ 1 ↔ digits.drop 1 = [] :=
      List.drop_eq_nil_iff.symm
    simp only [condition, List.append_assoc]
  · rw [List.take_append_drop, value, List.length_drop]
    congr 2
    omega

end Decimal

/-- A decimal is read as its value. -/
theorem readsAs_render
    {decimal : ShortDecimal}
    (positive : 0 < decimal.digits)
    (ends : Ends rest)
    (negative : Bool) :
    ReadsAs negative decimal.render rest decimal.value := by
  have value :
      decimal.value =
        decimal.digits *
          10 ^ (decimal.point - (Text.ofNat decimal.digits).length) := by
    rw [ShortDecimal.value, Text.ofNat, List.length_map]
  rw [value, ShortDecimal.render]
  split
  · exact readsAs_positional positive ends negative _
  · exact readsAs_scientific positive ends negative _

/-- The shortest decimal of a number is read as this number. -/
theorem readUnsigned?_shortest
    {mantissa : Nat}
    {exponent : Int}
    (canonical : Canonical mantissa exponent)
    (positive : 0 < mantissa)
    (ends : Ends rest)
    (negative : Bool) :
    readUnsigned? negative ((shortest mantissa exponent).render ++ rest) =
      some (.number (.finite negative mantissa exponent), rest) := by
  rcases shortest_rounds canonical positive with ⟨digits, rounds⟩
  rcases readsAs_render digits ends negative with ⟨_, _, read, value⟩
  rw [← value] at rounds
  rw [read, ofDecimal_eq canonical positive rounds]

/-- Zero is read as zero, with its sign. -/
theorem readUnsigned?_zero
    (ends : Ends rest)
    (negative : Bool) :
    readUnsigned? negative (Text.ofString "0.0" ++ rest) =
      some (.number (.finite negative 0 leastExponent), rest) :=
  readUnsigned?_places (whole_ofNat 0) (digits_ofNat 0)
    (List.cons_ne_nil _ _) ends negative

end Written

end ClauseEditor.Json
