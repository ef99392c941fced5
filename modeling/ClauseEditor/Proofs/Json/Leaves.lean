import ClauseEditor.Proofs.Json.Grammar
import ClauseEditor.Proofs.Json.Quotation

/-!
# Strings and numerals are read by the grammar

A reader of a leaf finds the front of a text that the grammar allows, and it
finds all of it: a string ends at its first quote that is not escaped, and a
numeral at the first character that could not belong to one.
-/

namespace ClauseEditor.Json

/-! ## Units -/

section Units

variable {c : CodePoint} {text digits rest : Text} {unit value : Nat}

/-- A digit is found in the rows of digits, and nothing else is. -/
theorem hexValue?_eq_some_iff :
    hexValue? c = some value ↔ IsHexDigit c value := by
  constructor
  · intro found
    have listed :
        ∀ n < 0x67,
          ∀ value ∈ hexValue? (CodePoint.ofNat n),
            IsHexDigit (CodePoint.ofNat n) value := by
      decide
    have small : c.val < 0x67 := by
      by_contra large
      rw [hexValue?, if_neg (by omega), if_neg (by omega), if_neg (by omega)]
        at found
      cases found
    have digit := listed c.val small value
    rw [CodePoint.ofNat_val] at digit
    exact digit found
  · have listed :
        ∀ n < 16,
          (Text.ofString "0123456789abcdef")[n]?.bind hexValue? = some n ∧
            (Text.ofString "0123456789ABCDEF")[n]?.bind hexValue? =
              some n := by
      decide
    rintro (digit | digit)
    · rcases List.getElem?_eq_some_iff.mp digit with ⟨below, _⟩
      have found := (listed value below).1
      rwa [digit, Option.bind_some] at found
    · rcases List.getElem?_eq_some_iff.mp digit with ⟨below, _⟩
      have found := (listed value below).2
      rwa [digit, Option.bind_some] at found

theorem IsUnit.read
    (isUnit : IsUnit digits unit)
    (rest : Text) :
    readUnit? (digits ++ rest) = some (unit, rest) := by
  cases isUnit with
  | digits firstDigit secondDigit thirdDigit fourthDigit =>
      simp only [List.cons_append, List.nil_append, readUnit?,
        hexValue?_eq_some_iff.mpr firstDigit,
        hexValue?_eq_some_iff.mpr secondDigit,
        hexValue?_eq_some_iff.mpr thirdDigit,
        hexValue?_eq_some_iff.mpr fourthDigit, Option.bind_eq_bind,
        Option.bind_some]

theorem exists_isUnit_of_readUnit?
    (read : readUnit? text = some (unit, rest)) :
    ∃ digits, IsUnit digits unit ∧ text = digits ++ rest := by
  match text, read with
  | first :: second :: third :: fourth :: behind, read =>
      simp only [readUnit?, Option.bind_eq_bind, Option.bind_eq_some_iff]
        at read
      rcases read with ⟨a, isA, b, isB, c, isC, d, isD, same⟩
      cases same
      refine ⟨[first, second, third, fourth], ?_, rfl⟩
      exact .digits (hexValue?_eq_some_iff.mp isA)
        (hexValue?_eq_some_iff.mp isB) (hexValue?_eq_some_iff.mp isC)
        (hexValue?_eq_some_iff.mp isD)

theorem readLowHalf?_eq_some_iff :
    readLowHalf? text = some (unit, rest) ↔
      ∃ digits,
        IsUnit digits unit ∧ IsSecondHalf unit ∧
          text = unitEscape digits ++ rest := by
  constructor
  · intro read
    rcases Option.bind_eq_some_iff.mp read with ⟨behind, starts, read⟩
    rcases Option.bind_eq_some_iff.mp read with ⟨⟨value, after⟩, found, read⟩
    dsimp only at read
    split at read
    · rename_i half
      cases read
      rcases exists_isUnit_of_readUnit? found with ⟨digits, isUnit, rfl⟩
      refine ⟨digits, isUnit, half, ?_⟩
      rw [eq_of_after? starts, List.append_assoc]
    · cases read
  · rintro ⟨digits, isUnit, half, rfl⟩
    rw [List.append_assoc, readLowHalf?, after?_append]
    simp only [Option.bind_eq_bind, Option.bind_some, isUnit.read]
    exact if_pos half

/-- No quote stands in an escape of a unit. -/
theorem quote_notMem_unitEscape
    (isUnit : IsUnit digits unit) :
    CodePoint.ofChar '"' ∉ unitEscape digits := by
  have noDigit (n : Nat) : ¬ IsHexDigit (CodePoint.ofChar '"') n := by
    rw [← hexValue?_eq_some_iff]
    exact nofun
  have noLetter : CodePoint.ofChar '"' ∉ Text.ofString "\\u" := by decide
  cases isUnit with
  | digits firstDigit secondDigit thirdDigit fourthDigit =>
      simp only [List.mem_append, List.mem_cons, List.not_mem_nil, or_false,
        noLetter, false_or, not_or]
      refine ⟨?_, ?_, ?_, ?_⟩
      · rintro rfl
        exact noDigit _ firstDigit
      · rintro rfl
        exact noDigit _ secondDigit
      · rintro rfl
        exact noDigit _ thirdDigit
      · rintro rfl
        exact noDigit _ fourthDigit

/-- The quote at the end of a string takes no part in an escape. -/
theorem readLowHalf?_eq_none_iff {body : Text} :
    readLowHalf? (body ++ CodePoint.ofChar '"' :: rest) = none ↔
      StartsAlone body := by
  rw [Option.eq_none_iff_forall_ne_some]
  constructor
  · rintro none digits unit more isUnit half rfl
    apply none (unit, more ++ CodePoint.ofChar '"' :: rest)
    rw [List.append_assoc]
    exact readLowHalf?_eq_some_iff.mpr ⟨digits, isUnit, half, rfl⟩
  · rintro alone ⟨unit, behind⟩ read
    rcases readLowHalf?_eq_some_iff.mp read with ⟨digits, isUnit, half, same⟩
    rcases List.append_eq_append_iff.mp same with
      ⟨more, shorter, behindMore⟩ | ⟨more, longer, _⟩
    · cases more with
      | nil =>
          apply alone digits unit [] isUnit half
          rw [shorter, List.append_nil, List.append_nil]
      | cons c more =>
          cases behindMore
          apply quote_notMem_unitEscape isUnit
          exact shorter ▸ List.mem_append_right _ List.mem_cons_self
    · exact alone digits unit more isUnit half longer

end Units

/-! ## Strings -/

section Strings

variable {c : CodePoint} {text tail behind body shown rest : Text} {fuel : Nat}

/-- An escape is read as its character, whatever follows the string. -/
theorem IsEscape.read
    (isEscape : IsEscape behind text c)
    (rest : Text) :
    ∃ tail,
      text = CodePoint.ofChar '\\' :: tail ∧
        readEscape? (tail ++ (behind ++ CodePoint.ofChar '"' :: rest)) =
          some (c, behind ++ CodePoint.ofChar '"' :: rest) := by
  cases isEscape with
  | short listed =>
      refine ⟨_, rfl, ?_⟩
      simp only [shortEscapes, List.mem_cons, Prod.mk.injEq, List.not_mem_nil,
        or_false] at listed
      rcases listed with ⟨rfl, rfl⟩ | ⟨rfl, rfl⟩ | ⟨rfl, rfl⟩ | ⟨rfl, rfl⟩ |
          ⟨rfl, rfl⟩ | ⟨rfl, rfl⟩ | ⟨rfl, rfl⟩ | ⟨rfl, rfl⟩ <;>
        rfl
  | @unit digits unit isUnit alone =>
      refine ⟨CodePoint.ofChar 'u' :: digits, rfl, ?_⟩
      rw [List.cons_append, readEscape?_u, isUnit.read, Option.bind_some]
      dsimp only
      split
      · rename_i first
        rw [readLowHalf?_eq_none_iff.mpr (alone first)]
      · rfl
  | @pair firstDigits secondDigits first second isFirst isSecond firstHalf
      secondHalf =>
      refine ⟨CodePoint.ofChar 'u' :: (firstDigits ++ unitEscape secondDigits),
        rfl, ?_⟩
      have low :
          readLowHalf? (unitEscape secondDigits ++
              (behind ++ CodePoint.ofChar '"' :: rest)) =
            some (second, behind ++ CodePoint.ofChar '"' :: rest) :=
        readLowHalf?_eq_some_iff.mpr
          ⟨secondDigits, isSecond, secondHalf, rfl⟩
      rw [List.cons_append, List.append_assoc, readEscape?_u, isFirst.read,
        Option.bind_some]
      dsimp only
      rw [low]
      exact if_pos firstHalf

/--
What stands in front of the rest of a text is an escape behind its backslash,
if the rest goes on to the end of a string.
-/
def EscapesTo (text rest : Text) (c : CodePoint) : Prop :=
  ∃ tail,
    text = tail ++ rest ∧
      ∀ behind after,
        rest = behind ++ CodePoint.ofChar '"' :: after →
          IsEscape behind (CodePoint.ofChar '\\' :: tail) c

theorem escapesTo_short
    (letter : Char)
    (number : Nat)
    (listed : (letter, number) ∈ shortEscapes)
    (rest : Text) :
    EscapesTo (CodePoint.ofChar letter :: rest) rest (CodePoint.ofNat number) :=
  ⟨[CodePoint.ofChar letter], rfl, fun _ _ _ => .short listed⟩

theorem escapesTo_unit
    (read : readEscape? (CodePoint.ofChar 'u' :: text) = some (c, rest)) :
    EscapesTo (CodePoint.ofChar 'u' :: text) rest c := by
  rw [readEscape?_u] at read
  rcases Option.bind_eq_some_iff.mp read with ⟨⟨unit, after⟩, found, chosen⟩
  rcases exists_isUnit_of_readUnit? found with ⟨digits, isUnit, rfl⟩
  dsimp only at chosen
  split at chosen
  · rename_i firstHalf
    split at chosen
    · rename_i second last low
      rcases Prod.mk.inj (Option.some.inj chosen) with ⟨rfl, rfl⟩
      rcases readLowHalf?_eq_some_iff.mp low
        with ⟨secondDigits, isSecond, secondHalf, rfl⟩
      refine ⟨CodePoint.ofChar 'u' :: (digits ++ unitEscape secondDigits), ?_,
        ?_⟩
      · rw [List.cons_append, List.append_assoc digits]
      · intro behind after _
        exact .pair isUnit isSecond firstHalf secondHalf
    · rename_i none
      cases chosen
      refine ⟨CodePoint.ofChar 'u' :: digits, rfl, ?_⟩
      rintro behind after rfl
      exact .unit isUnit fun _ => readLowHalf?_eq_none_iff.mp none
  · rename_i other
    cases chosen
    refine ⟨CodePoint.ofChar 'u' :: digits, rfl, ?_⟩
    intro behind after _
    exact .unit isUnit fun first => absurd first other

/-- What is read as an escape is one, in front of any string that goes on. -/
theorem escapesTo_of_readEscape?
    (read : readEscape? text = some (c, rest)) :
    EscapesTo text rest c := by
  cases text with
  | nil => cases read
  | cons letter following =>
      by_cases unitLetter : letter = 'u'
      · subst unitLetter
        exact escapesTo_unit read
      rw [readEscape?] at read
      split at read
      · rename_i itself
        cases read
        rcases itself with rfl | rfl | rfl
        · exact escapesTo_short '"' 0x22 (by decide) rest
        · exact escapesTo_short '\\' 0x5C (by decide) rest
        · exact escapesTo_short '/' 0x2F (by decide) rest
      split at read
      · rename_i named
        cases read
        exact named ▸ escapesTo_short 'b' 0x08 (by decide) rest
      split at read
      · rename_i named
        cases read
        exact named ▸ escapesTo_short 'f' 0x0C (by decide) rest
      split at read
      · rename_i named
        cases read
        exact named ▸ escapesTo_short 'n' 0x0A (by decide) rest
      split at read
      · rename_i named
        cases read
        exact named ▸ escapesTo_short 'r' 0x0D (by decide) rest
      split at read
      · rename_i named
        cases read
        exact named ▸ escapesTo_short 't' 0x09 (by decide) rest
      cases read

/-- What a text between quotes spells is read from it. -/
theorem Spells.read
    (spells : Spells body shown)
    (enough : body.length < fuel)
    (rest : Text) :
    readString? fuel (body ++ CodePoint.ofChar '"' :: rest) =
      some (shown, rest) := by
  induction spells generalizing fuel with
  | nil =>
      rcases Nat.exists_eq_add_one.mpr enough with ⟨fewer, rfl⟩
      rfl
  | plain noQuote noBackslash noControl _ induction =>
      rcases Nat.exists_eq_add_one.mpr (Nat.zero_lt_of_lt enough)
        with ⟨fewer, rfl⟩
      rw [List.cons_append, readString?_plain noQuote noBackslash
        (Nat.not_lt.mpr noControl), induction (Nat.lt_of_succ_lt_succ enough)]
      rfl
  | @escape c escape body shown isEscape _ induction =>
      rcases Nat.exists_eq_add_one.mpr (Nat.zero_lt_of_lt enough)
        with ⟨fewer, rfl⟩
      rcases isEscape.read rest with ⟨tail, rfl, read⟩
      have shorter : body.length < fewer := by
        rw [List.length_append, List.length_cons] at enough
        omega
      rw [List.append_assoc, List.cons_append, readString?_backslash, read,
        Option.bind_some, induction shorter]
      rfl

/-- A string that is read is what the text up to its last quote spells. -/
theorem spells_of_readString?
    (read : readString? fuel text = some (shown, rest)) :
    ∃ body,
      text = body ++ CodePoint.ofChar '"' :: rest ∧ Spells body shown := by
  induction fuel generalizing text shown with
  | zero => cases read
  | succ fuel induction =>
      match text, read with
      | c :: following, read =>
          by_cases quote : c = '"'
          · rw [readString?, if_pos quote] at read
            cases read
            exact ⟨[], by rw [quote, List.nil_append], .nil⟩
          by_cases backslash : c = '\\'
          · subst backslash
            rw [readString?_backslash] at read
            rcases Option.bind_eq_some_iff.mp read
              with ⟨⟨first, after⟩, escaped, read⟩
            rcases Option.map_eq_some_iff.mp read
              with ⟨⟨others, last⟩, found, same⟩
            cases same
            rcases induction found with ⟨body, rfl, spells⟩
            rcases escapesTo_of_readEscape? escaped with ⟨tail, rfl, isEscape⟩
            refine ⟨CodePoint.ofChar '\\' :: tail ++ body, ?_, ?_⟩
            · rw [List.append_assoc, List.cons_append]
            · exact .escape (isEscape body _ rfl) spells
          · by_cases control : c.val < 0x20
            · rw [readString?, if_neg quote, if_neg backslash, if_pos control]
                at read
              cases read
            · rw [readString?_plain quote backslash control] at read
              rcases Option.map_eq_some_iff.mp read
                with ⟨⟨others, last⟩, found, same⟩
              cases same
              rcases induction found with ⟨body, rfl, spells⟩
              exact ⟨c :: body, rfl,
                .plain quote backslash (Nat.not_lt.mp control) spells⟩

end Strings

/-! ## Numerals -/

/-- An optional part of a numeral: its text, and its value if it is there. -/
structure Tells {α : Type} (found? : Option α) (absent : α) (part : Text) (value : α) :
    Prop where
  value : found?.getD absent = value
  present : found? = none ↔ part = []

section Parts

variable {text whole fraction places exponent behind rest : Text} {scale : Int}

theorem whole_of_readWhole?
    (read : readWhole? text = some (whole, rest)) :
    Whole whole ∧ text = whole ++ rest := by
  match text, read with
  | c :: following, read =>
      rw [readWhole?] at read
      split at read
      · rename_i zero
        cases read
        rw [zero]
        exact ⟨whole_ofNat 0, rfl⟩
      · rename_i noZero
        split at read
        · rename_i digit
          cases read
          have first :
              (c :: following).takeWhile isDigit =
                c :: following.takeWhile isDigit :=
            List.takeWhile_cons_of_pos digit
          refine ⟨⟨?_, Or.inr ⟨c, _, first, noZero⟩⟩, ?_⟩
          · intro c member
            exact List.mem_takeWhile_imp member
          · exact List.takeWhile_append_dropWhile.symm
        · cases read

theorem IsFraction.read
    (isFraction : IsFraction fraction places)
    (stops : NoDigit rest)
    (noPoint : ∀ c ∈ rest.head?, c ≠ '.') :
    ∃ found?,
      readFraction (fraction ++ rest) = (found?, rest) ∧
        Tells found? [] fraction places := by
  cases isFraction with
  | absent =>
      refine ⟨none, ?_, rfl, iff_of_true rfl rfl⟩
      exact readFraction_of_ne noPoint
  | places digits notEmpty =>
      refine ⟨some places, ?_, rfl, iff_of_false nofun nofun⟩
      exact readFraction_append digits notEmpty stops

theorem isFraction_readFraction (text : Text) :
    ∃ fraction places,
      text = fraction ++ (readFraction text).2 ∧
        IsFraction fraction places ∧
          Tells (readFraction text).1 [] fraction places := by
  have absent :
      ∃ fraction places,
        text = fraction ++ text ∧ IsFraction fraction places ∧
          Tells none [] fraction places :=
    ⟨[], [], rfl, .absent, rfl, iff_of_true rfl rfl⟩
  cases text with
  | nil => exact absent
  | cons point following =>
      rw [readFraction]
      split
      · rename_i found
        refine ⟨_, _, ?_, .places ?_ found.2, rfl,
          iff_of_false (Option.some_ne_none _) (List.cons_ne_nil _ _)⟩
        · rw [found.1, List.append_assoc, List.takeWhile_append_dropWhile]
          rfl
        · intro c member
          exact List.mem_takeWhile_imp member
      · exact absent

/-- Whether a minus stands in front of an exponent, and what is behind its sign. -/
def exponentSign : Text → Bool × Text
  | [] => (false, [])
  | sign :: after =>
    if sign = '-' then (true, after)
    else if sign = '+' then (false, after)
    else (false, sign :: after)

theorem readExponent_cons (letter : CodePoint) (behind : Text) :
    readExponent (letter :: behind) =
      if letter = 'e' ∨ letter = 'E' then
        let (negative, digits) := exponentSign behind
        if digits.takeWhile isDigit = [] then (none, letter :: behind)
        else
          let size : Int := digitsValue (digits.takeWhile isDigit)
          (some (if negative then -size else size), digits.dropWhile isDigit)
      else (none, letter :: behind) := by
  cases behind with
  | nil => rfl
  | cons sign after => rfl

theorem isSign_exponentSign (behind : Text) :
    ∃ sign,
      IsSign (exponentSign behind).1 sign ∧
        behind = sign ++ (exponentSign behind).2 := by
  cases behind with
  | nil => exact ⟨[], .absent, rfl⟩
  | cons sign after =>
      rw [exponentSign]
      split
      · rename_i minus
        exact ⟨_, .minus, minus ▸ rfl⟩
      · split
        · rename_i plus
          exact ⟨_, .plus, plus ▸ rfl⟩
        · exact ⟨[], .absent, rfl⟩

/-- A digit is no sign. -/
theorem exponentSign_digits
    {digits : Text}
    (all : Digits digits)
    (notEmpty : digits ≠ [])
    (rest : Text) :
    exponentSign (digits ++ rest) = (false, digits ++ rest) := by
  match digits, notEmpty with
  | c :: more, _ =>
      have digit := all c List.mem_cons_self
      have different (sign : Char) (noDigit : isDigit sign = false) :
          c ≠ CodePoint.ofChar sign := by
        rintro rfl
        rw [noDigit] at digit
        cases digit
      rw [List.cons_append, exponentSign, if_neg (different '-' rfl),
        if_neg (different '+' rfl)]

theorem IsSign.exponentSign_append
    {negative : Bool}
    {sign digits : Text}
    (isSign : IsSign negative sign)
    (all : Digits digits)
    (notEmpty : digits ≠ [])
    (rest : Text) :
    exponentSign (sign ++ digits ++ rest) = (negative, digits ++ rest) := by
  cases isSign with
  | absent => exact exponentSign_digits all notEmpty rest
  | plus => rfl
  | minus => rfl

theorem IsExponent.read
    (isExponent : IsExponent exponent scale)
    (ends : Ends rest) :
    ∃ found?,
      readExponent (exponent ++ rest) = (found?, rest) ∧
        Tells found? 0 exponent scale := by
  cases isExponent with
  | absent => exact ⟨none, readExponent_of_ends ends, rfl, iff_of_true rfl rfl⟩
  | present isLetter isSign all notEmpty =>
      have split := isSign.exponentSign_append all notEmpty rest
      have taken := takeWhile_digits all ends.noDigit
      have dropped := dropWhile_digits all ends.noDigit
      refine ⟨some _, ?_, rfl,
        iff_of_false (Option.some_ne_none _) (List.cons_ne_nil _ _)⟩
      rw [List.cons_append, readExponent_cons, if_pos isLetter, split]
      dsimp only
      rw [taken, dropped, if_neg notEmpty]
      rfl

theorem isExponent_readExponent (text : Text) :
    ∃ exponent scale,
      text = exponent ++ (readExponent text).2 ∧
        IsExponent exponent scale ∧
          Tells (readExponent text).1 0 exponent scale := by
  have absent :
      ∃ exponent scale,
        text = exponent ++ text ∧ IsExponent exponent scale ∧
          Tells none 0 exponent scale :=
    ⟨[], 0, rfl, .absent, rfl, iff_of_true rfl rfl⟩
  cases text with
  | nil => exact absent
  | cons letter behind =>
      rw [readExponent_cons]
      split
      · rename_i isLetter
        rcases isSign_exponentSign behind with ⟨sign, isSign, same⟩
        dsimp only
        split
        · exact absent
        · rename_i notEmpty
          refine ⟨_, _, ?_, .present isLetter isSign ?_ notEmpty, rfl,
            iff_of_false (Option.some_ne_none _) (List.cons_ne_nil _ _)⟩
          · rw [List.cons_append, List.append_assoc,
              List.takeWhile_append_dropWhile, ← same]
          · intro c member
            exact List.mem_takeWhile_imp member
      · exact absent

end Parts

section Numerals

variable {negative : Bool} {text rest : Text} {value : Json}

/-- A numeral is read if nothing behind it could belong to it. -/
theorem IsNumeral.read
    (isNumeral : IsNumeral negative text value)
    (ends : Ends rest) :
    readUnsigned? negative (text ++ rest) = some (value, rest) := by
  cases isNumeral with
  | integer front => exact readUnsigned?_whole front ends negative
  | @number whole fraction places exponent scale front isFraction isExponent
      notEmpty =>
      rcases isExponent.read ends with ⟨scale?, readScale, tellsScale⟩
      have letter :
          ∀ c ∈ (exponent ++ rest).head?, isDigit c = false ∧ c ≠ '.' := by
        cases isExponent with
        | absent => exact fun c first => ⟨(ends c first).1, (ends c first).2.1⟩
        | present isLetter =>
            rcases isLetter with rfl | rfl <;>
              · rintro c ⟨⟩
                decide
      rcases isFraction.read (fun c first => (letter c first).1)
          (fun c first => (letter c first).2)
        with ⟨places?, readPlaces, tellsPlaces⟩
      have point : NoDigit (fraction ++ (exponent ++ rest)) := by
        cases isFraction with
        | absent => exact fun c first => (letter c first).1
        | places =>
            rintro c ⟨⟩
            rfl
      rw [List.append_assoc, List.append_assoc, readUnsigned?,
        readWhole?_append front point]
      simp only [Option.bind_eq_bind, Option.bind_some, readPlaces, readScale,
        tellsPlaces.value, tellsScale.value]
      split
      · exact absurd notEmpty
          (not_or.mpr ⟨not_not.mpr (tellsPlaces.present.mp rfl),
            not_not.mpr (tellsScale.present.mp rfl)⟩)
      · rfl

/-- What is read as a numeral is one, and it stands in front of the rest. -/
theorem isNumeral_of_readUnsigned?
    (read : readUnsigned? negative text = some (value, rest)) :
    ∃ front, text = front ++ rest ∧ IsNumeral negative front value := by
  rcases Option.bind_eq_some_iff.mp read with ⟨⟨whole, behind⟩, found, chosen⟩
  rcases whole_of_readWhole? found with ⟨front, rfl⟩
  rcases isFraction_readFraction behind
    with ⟨fraction, places, shape, isFraction, tellsPlaces⟩
  rcases isExponent_readExponent (readFraction behind).2
    with ⟨exponent, scale, shapeExponent, isExponent, tellsScale⟩
  rw [shapeExponent] at shape
  dsimp only at chosen
  split at chosen
  · rename_i noPlaces noScale
    cases chosen
    rw [tellsPlaces.present.mp noPlaces, tellsScale.present.mp noScale] at shape
    refine ⟨whole, ?_, .integer front⟩
    exact congrArg (whole ++ ·) shape
  · rename_i present
    cases chosen
    rw [tellsPlaces.value, tellsScale.value]
    refine ⟨whole ++ (fraction ++ exponent), ?_,
      .number front isFraction isExponent ?_⟩
    · simp only [List.append_assoc]
      exact congrArg (whole ++ ·) shape
    · by_contra none
      rw [not_or, not_not, not_not] at none
      exact present (tellsPlaces.present.mpr none.1)
        (tellsScale.present.mpr none.2)

end Numerals

end ClauseEditor.Json
