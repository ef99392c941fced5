import Mathlib.Data.List.Find
import ClauseEditor.Highlight.Line
import ClauseEditor.Proofs.Highlight.Literals

/-!
# Delimiters stop the recognisers

Quotes, slashes and backslashes delimit tokens.  No token has one of them next
to another character, so a recogniser reads up to the next delimiter and not
further; and behind a delimiter it finds what it would find at the start of a
line.
-/

namespace ClauseEditor.Highlight

open ClauseEditor.Scallop

/-! ## Delimiters -/

/-- A quote, a slash or a backslash. -/
def isDelimiter (c : CodePoint) : Bool :=
  c = quote || c = slash || c = backslash

theorem single_eq_slash {unit : CodeUnit} :
    unit.single = slash ↔ unit = .ofChar '/' := by
  rw [slash, ← Utf16.single_ofChar (by decide), Utf16.single_injective.eq_iff]

theorem isDelimiter_single {unit : CodeUnit} :
    isDelimiter unit.single = true ↔
      unit = .ofChar '"' ∨ unit = .ofChar '/' ∨ unit = .ofChar '\\' := by
  simp [isDelimiter, single_eq_quote, single_eq_slash, single_eq_backslash,
    or_assoc]

/-- No delimiter is a member of the class. -/
def Excludes (isMember : CodeUnit → Bool) : Prop :=
  ∀ unit : CodeUnit, isDelimiter unit.single = true → isMember unit = false

theorem excludes_of_eq_false
    {isMember : CodeUnit → Bool}
    (atQuote : isMember (.ofChar '"') = false)
    (atSlash : isMember (.ofChar '/') = false)
    (atBackslash : isMember (.ofChar '\\') = false) :
    Excludes isMember := by
  intro unit delimiter
  rcases isDelimiter_single.mp delimiter with rfl | rfl | rfl
  · exact atQuote
  · exact atSlash
  · exact atBackslash

theorem excludes_isDigit : Excludes isDigit :=
  excludes_of_eq_false rfl rfl rfl

theorem excludes_isNameStart : Excludes isNameStart :=
  excludes_of_eq_false rfl rfl rfl

theorem excludes_isWord : Excludes isWord :=
  excludes_of_eq_false rfl rfl rfl

theorem excludes_isHexDigit : Excludes isHexDigit :=
  excludes_of_eq_false rfl rfl rfl

theorem excludes_isBinaryDigit : Excludes isBinaryDigit :=
  excludes_of_eq_false rfl rfl rfl

theorem excludes_isBlank : Excludes isBlank :=
  excludes_of_eq_false rfl rfl rfl

/-- There are characters in the word, but no delimiters. -/
structure IsUndelimited (word : List CodeUnit) : Prop where
  ne_nil : word ≠ []
  plain : ∀ unit ∈ word, isDelimiter unit.single = false

instance (word : List CodeUnit) : Decidable (IsUndelimited word) :=
  decidable_of_iff
    (word ≠ [] ∧ ∀ unit ∈ word, isDelimiter unit.single = false)
    ⟨fun both => ⟨both.1, both.2⟩, fun word => ⟨word.ne_nil, word.plain⟩⟩

/-! ## Reading up to a delimiter -/

/-- The line ends there, or a delimiter follows. -/
def Stops (rest : List CodeUnit) : Prop :=
  ∀ unit ∈ rest.head?, isDelimiter unit.single = true

theorem stops_cons
    {unit : CodeUnit}
    (delimiter : isDelimiter unit.single = true)
    (rest : List CodeUnit) :
    Stops (unit :: rest) := by
  intro first same
  cases same
  exact delimiter

section Reading

variable {rest : List CodeUnit} (stops : Stops rest)

include stops

theorem head?_any_append
    {isMember : CodeUnit → Bool}
    (excludes : Excludes isMember)
    (units : List CodeUnit) :
    (units ++ rest).head?.any isMember = units.head?.any isMember := by
  cases units with
  | cons unit units => rfl
  | nil =>
      cases rest with
      | nil => rfl
      | cons unit rest => exact excludes unit (stops unit rfl)

theorem wordEnds_append (units : List CodeUnit) :
    wordEnds (units ++ rest) = wordEnds units := by
  rw [wordEnds, wordEnds, head?_any_append stops excludes_isWord]

theorem takeWhile_append
    {isMember : CodeUnit → Bool}
    (excludes : Excludes isMember)
    (units : List CodeUnit) :
    (units ++ rest).takeWhile isMember = units.takeWhile isMember := by
  induction units with
  | cons unit units induction =>
      rw [List.cons_append, List.takeWhile_cons, List.takeWhile_cons, induction]
  | nil =>
      cases rest with
      | nil => rfl
      | cons unit rest =>
          rw [List.nil_append, List.takeWhile_cons,
            excludes unit (stops unit rfl)]
          rfl

theorem nameLength_append (units : List CodeUnit) :
    nameLength (units ++ rest) = nameLength units := by
  rw [nameLength, nameLength, head?_any_append stops excludes_isNameStart,
    takeWhile_append stops excludes_isWord]

theorem head?_eq_append
    {mark : CodeUnit}
    (plain : isDelimiter mark.single = false)
    (units : List CodeUnit) :
    (units ++ rest).head? = some mark ↔ units.head? = some mark := by
  cases units with
  | cons unit units => exact Iff.rfl
  | nil =>
      cases rest with
      | nil => exact Iff.rfl
      | cons unit rest =>
          have different : unit ≠ mark := by
            rintro rfl
            have delimiter := stops unit rfl
            rw [plain] at delimiter
            cases delimiter
          simp [different]

theorem isPrefixOf_append
    {word : List CodeUnit}
    (plain : ∀ unit ∈ word, isDelimiter unit.single = false)
    (units : List CodeUnit) :
    word.isPrefixOf (units ++ rest) = word.isPrefixOf units := by
  induction word generalizing units with
  | nil => simp
  | cons first word induction =>
      cases units with
      | cons unit units =>
          rw [List.cons_append, List.isPrefixOf, List.isPrefixOf,
            induction fun other member =>
              plain other (List.mem_cons_of_mem first member)]
      | nil =>
          cases rest with
          | nil => rfl
          | cons unit rest =>
              have different : first ≠ unit := by
                rintro rfl
                have delimiter := stops first rfl
                rw [plain first List.mem_cons_self] at delimiter
                cases delimiter
              simp [List.isPrefixOf, different]

end Reading

theorem length_le_of_isPrefixOf
    {word units : List CodeUnit}
    (starts : word.isPrefixOf units = true) :
    word.length ≤ units.length :=
  (List.isPrefixOf_iff_prefix.mp starts).length_le

/-- A word without delimiters does not start at one. -/
theorem isPrefixOf_of_isDelimiter
    {word : List CodeUnit}
    (undelimited : IsUndelimited word)
    {unit : CodeUnit}
    (delimiter : isDelimiter unit.single = true)
    (rest : List CodeUnit) :
    word.isPrefixOf (unit :: rest) = false := by
  have short :=
    isPrefixOf_append (stops_cons delimiter rest) undelimited.plain []
  rw [List.nil_append] at short
  rw [short]
  cases word with
  | nil => exact absurd rfl undelimited.ne_nil
  | cons first word => rfl

/-! ## What recognisers read -/

/--
A recogniser whose tokens lie in what it reads, and to which a delimiter is
like the end of a line.
-/
structure Recogniser.IsDelimited (recognise : Recogniser) : Prop where
  /-- A token is found in what is read. -/
  inside
    {before : Option CodeUnit}
    {units : List CodeUnit}
    {token : Token} :
    recognise before units = some token →
      token.offset + token.length ≤ token.total ∧ token.total ≤ units.length
  /-- Nothing is read of a further delimiter, and nothing behind it. -/
  ahead
    {rest : List CodeUnit}
    (stops : Stops rest)
    (before : Option CodeUnit)
    (unit : CodeUnit)
    (units : List CodeUnit) :
    recognise before (unit :: (units ++ rest)) =
      recognise before (unit :: units)
  /-- Only the delimiter itself is read where one stands. -/
  alone
    {unit : CodeUnit}
    (delimiter : isDelimiter unit.single = true)
    (before : Option CodeUnit)
    (rest : List CodeUnit) :
    recognise before (unit :: rest) = recognise none [unit]
  /-- Behind a delimiter is like at the start of a line. -/
  behind
    {unit : CodeUnit}
    (delimiter : isDelimiter unit.single = true)
    (units : List CodeUnit) :
    recognise (some unit) units = recognise none units

/-- The text is a single character, or has no delimiters. -/
def IsSolid (text : List CodeUnit) : Prop :=
  text.length = 1 ∨ IsUndelimited text

instance (text : List CodeUnit) : Decidable (IsSolid text) :=
  inferInstanceAs (Decidable (text.length = 1 ∨ IsUndelimited text))

theorem isDelimited_oneOf
    {texts : List (List CodeUnit)}
    (solid : ∀ text ∈ texts, IsSolid text) :
    (oneOf texts).IsDelimited where
  inside {before units token} found := by
    rcases Option.map_eq_some_iff.mp found with ⟨text, stands, rfl⟩
    have starts := List.find?_some stands
    exact ⟨Nat.le_of_eq (Nat.zero_add _), length_le_of_isPrefixOf starts⟩
  ahead {rest} stops before unit units := by
    have same (text : List CodeUnit) (member : text ∈ texts) :
        text.isPrefixOf (unit :: (units ++ rest)) =
          text.isPrefixOf (unit :: units) := by
      rcases solid text member with single | undelimited
      · rcases List.length_eq_one_iff.mp single with ⟨only, rfl⟩
        simp [List.isPrefixOf]
      · exact isPrefixOf_append stops undelimited.plain (unit :: units)
    rw [oneOf, oneOf, List.find?_congr same]
  alone {unit} delimiter before rest := by
    have same (text : List CodeUnit) (member : text ∈ texts) :
        text.isPrefixOf (unit :: rest) = text.isPrefixOf [unit] := by
      rcases solid text member with single | undelimited
      · rcases List.length_eq_one_iff.mp single with ⟨only, rfl⟩
        simp [List.isPrefixOf]
      · rw [isPrefixOf_of_isDelimiter undelimited delimiter,
          isPrefixOf_of_isDelimiter undelimited delimiter]
    rw [oneOf, oneOf, List.find?_congr same]
  behind delimiter units := rfl

theorem isDelimited_wholeWord
    {words : List (List CodeUnit)}
    (undelimited : ∀ word ∈ words, IsUndelimited word) :
    (wholeWord words).IsDelimited where
  inside {before units token} found := by
    rw [wholeWord] at found
    split at found
    · cases found
    · rcases Option.map_eq_some_iff.mp found with ⟨word, stands, rfl⟩
      have starts := List.find?_some stands
      rw [Bool.and_eq_true] at starts
      exact ⟨Nat.le_of_eq (Nat.zero_add _), length_le_of_isPrefixOf starts.1⟩
  ahead {rest} stops before unit units := by
    have same (word : List CodeUnit) (member : word ∈ words) :
        (word.isPrefixOf (unit :: (units ++ rest)) &&
            wordEnds ((unit :: (units ++ rest)).drop word.length)) =
          (word.isPrefixOf (unit :: units) &&
            wordEnds ((unit :: units).drop word.length)) := by
      rw [← List.cons_append,
        isPrefixOf_append stops (undelimited word member).plain]
      cases starts : word.isPrefixOf (unit :: units) with
      | false => rfl
      | true =>
          rw [List.drop_append_of_le_length (length_le_of_isPrefixOf starts),
            wordEnds_append stops]
    rw [wholeWord, wholeWord, List.find?_congr same]
  alone {unit} delimiter before rest := by
    have nowhere (others : List CodeUnit) :
        (words.find? fun word =>
            word.isPrefixOf (unit :: others) &&
              wordEnds ((unit :: others).drop word.length)) =
          none := by
      rw [List.find?_eq_none]
      intro word member
      simp [isPrefixOf_of_isDelimiter (undelimited word member) delimiter]
    rw [wholeWord, wholeWord, nowhere, nowhere]
    simp
  behind {unit} delimiter units := by
    simp [wholeWord, excludes_isWord unit delimiter]

theorem length_takeWhile_le
    (isMember : CodeUnit → Bool)
    (units : List CodeUnit) :
    (units.takeWhile isMember).length ≤ units.length :=
  (List.takeWhile_prefix isMember).length_le

theorem nameLength_le (units : List CodeUnit) :
    nameLength units ≤ units.length := by
  rw [nameLength]
  split
  · exact length_takeWhile_le isWord units
  · exact Nat.zero_le _

theorem isDelimited_attributeName : attributeName.IsDelimited where
  inside {before units token} found := by
    have short := nameLength_le (units.drop 1)
    rw [attributeName] at found
    split at found
    · rename_i present
      cases found
      rw [List.length_drop] at short
      have nonempty : units ≠ [] := by
        rintro rfl
        cases present.1
      have positive := List.length_pos_iff.mpr nonempty
      refine ⟨Nat.le_of_eq (Nat.zero_add _), ?_⟩
      simp only [Token.whole]
      omega
    · cases found
  ahead stops before unit units := by
    simp [attributeName, nameLength_append stops]
  alone {unit} delimiter before rest := by
    have notAt : unit ≠ .ofChar '@' := by
      rintro rfl
      cases delimiter
    simp [attributeName, notAt]
  behind delimiter units := rfl

/-! ### Numerals -/

section Numerals

variable {mark : List CodeUnit} {isMember : CodeUnit → Bool}

theorem markedLength_le (units : List CodeUnit) :
    markedLength mark isMember units ≤ units.length := by
  rw [markedLength]
  split
  · rename_i present
    have front := length_le_of_isPrefixOf present.1
    have digits := length_takeWhile_le isMember (units.drop mark.length)
    rw [List.length_drop] at digits
    omega
  · exact Nat.zero_le _

theorem markedLength_append
    {rest : List CodeUnit}
    (stops : Stops rest)
    (plain : ∀ unit ∈ mark, isDelimiter unit.single = false)
    (excludes : Excludes isMember)
    (units : List CodeUnit) :
    markedLength mark isMember (units ++ rest) =
      markedLength mark isMember units := by
  rw [markedLength, markedLength, isPrefixOf_append stops plain]
  cases starts : mark.isPrefixOf units with
  | false => rfl
  | true =>
      have front := length_le_of_isPrefixOf starts
      have digits := length_takeWhile_le isMember (units.drop mark.length)
      rw [List.length_drop] at digits
      have all :
          mark.length +
              ((units.drop mark.length).takeWhile isMember).length ≤
            units.length := by
        omega
      rw [List.drop_append_of_le_length front, takeWhile_append stops excludes,
        List.drop_append_of_le_length all, wordEnds_append stops]

/-- The digits that follow a point, if there is one. -/
def fractionOf (units : List CodeUnit) : List CodeUnit :=
  if units.head? = some (.ofChar '.') then (units.drop 1).takeWhile isDigit
  else []

theorem length_fractionOf_lt
    {units : List CodeUnit}
    (present : fractionOf units ≠ []) :
    (fractionOf units).length < units.length := by
  cases units with
  | nil => exact absurd rfl present
  | cons unit units =>
      have digits := length_takeWhile_le isDigit units
      rw [fractionOf]
      split
      · exact Nat.lt_succ_of_le digits
      · exact Nat.succ_pos _

theorem fractionOf_append
    {rest : List CodeUnit}
    (stops : Stops rest)
    (units : List CodeUnit) :
    fractionOf (units ++ rest) = fractionOf units := by
  have point :
      (units ++ rest).head? = some (.ofChar '.') ↔
        units.head? = some (.ofChar '.') :=
    head?_eq_append stops (by decide) units
  simp only [fractionOf, point]
  cases units with
  | nil => simp
  | cons unit units =>
      simp only [List.cons_append, List.drop_one, List.tail_cons,
        takeWhile_append stops excludes_isDigit]

/-- The length of a decimal numeral by its parts. -/
theorem decimalLength_eq (units : List CodeUnit) :
    decimalLength units =
      let whole := units.takeWhile isDigit
      let rest := units.drop whole.length
      let total := whole.length + 1 + (fractionOf rest).length
      if whole = [] then 0
      else if fractionOf rest ≠ [] ∧ wordEnds (units.drop total) then total
      else if wordEnds rest then whole.length
      else 0 :=
  rfl

/-- A fraction lies in what is read. -/
theorem length_decimal_le
    {units : List CodeUnit}
    (present : fractionOf (units.drop (units.takeWhile isDigit).length) ≠ []) :
    (units.takeWhile isDigit).length + 1 +
        (fractionOf (units.drop (units.takeWhile isDigit).length)).length ≤
      units.length := by
  have whole := length_takeWhile_le isDigit units
  have behind := length_fractionOf_lt present
  rw [List.length_drop] at behind
  omega

theorem decimalLength_le (units : List CodeUnit) :
    decimalLength units ≤ units.length := by
  rw [decimalLength_eq]
  dsimp only
  split
  · exact Nat.zero_le _
  · split
    · rename_i decimal
      exact length_decimal_le decimal.1
    · split
      · exact length_takeWhile_le isDigit units
      · exact Nat.zero_le _

theorem decimalLength_append
    {rest : List CodeUnit}
    (stops : Stops rest)
    (units : List CodeUnit) :
    decimalLength (units ++ rest) = decimalLength units := by
  have whole := length_takeWhile_le isDigit units
  simp only [decimalLength_eq, takeWhile_append stops excludes_isDigit,
    List.drop_append_of_le_length whole, fractionOf_append stops,
    wordEnds_append stops]
  by_cases present :
      fractionOf (units.drop (units.takeWhile isDigit).length) = []
  · simp [present]
  · rw [List.drop_append_of_le_length (length_decimal_le present),
      wordEnds_append stops]

/-- The lengths that a numeral can have. -/
def numeralLengths (units : List CodeUnit) : List Nat :=
  [markedLength [.ofChar '0', .ofChar 'x'] isHexDigit units,
    markedLength [.ofChar '0', .ofChar 'b'] isBinaryDigit units,
    decimalLength units]

theorem numeral_eq (before : Option CodeUnit) (units : List CodeUnit) :
    numeral before units =
      if before.any isWord then none
      else ((numeralLengths units).find? (· ≠ 0)).map .whole :=
  rfl

theorem isDelimited_numeral : numeral.IsDelimited where
  inside {before units token} found := by
    rw [numeral_eq] at found
    split at found
    · cases found
    · rcases Option.map_eq_some_iff.mp found with ⟨length, chosen, rfl⟩
      have short : ∀ length ∈ numeralLengths units, length ≤ units.length := by
        simp [numeralLengths, markedLength_le, decimalLength_le]
      exact ⟨Nat.le_of_eq (Nat.zero_add _),
        short length (List.mem_of_find?_eq_some chosen)⟩
  ahead {rest} stops before unit units := by
    have same :
        numeralLengths (unit :: units ++ rest) =
          numeralLengths (unit :: units) := by
      rw [numeralLengths, numeralLengths,
        markedLength_append stops (by decide) excludes_isHexDigit,
        markedLength_append stops (by decide) excludes_isBinaryDigit,
        decimalLength_append stops]
    rw [numeral_eq, numeral_eq, ← List.cons_append, same]
  alone {unit} delimiter before rest := by
    have zeros (others : List CodeUnit) :
        numeralLengths (unit :: others) = [0, 0, 0] := by
      rcases isDelimiter_single.mp delimiter with rfl | rfl | rfl <;> rfl
    rw [numeral_eq, numeral_eq, zeros, zeros]
    simp
  behind {unit} delimiter units := by
    simp [numeral_eq, excludes_isWord unit delimiter]

end Numerals

/-! ### Declared names -/

/-- A name behind a word and at least one blank. -/
def nameBehind? (units word : List CodeUnit) : Option Token :=
  let rest := units.drop word.length
  let gap := (rest.takeWhile isBlank).length
  let name := nameLength (rest.drop gap)
  if word.isPrefixOf units ∧ gap ≠ 0 ∧ name ≠ 0 then
    some ⟨word.length + gap, name, word.length + gap + name⟩
  else none

theorem nameAfter_eq
    (words : List (List CodeUnit))
    (before : Option CodeUnit)
    (units : List CodeUnit) :
    nameAfter words before units =
      if before.any isWord then none
      else words.findSome? (nameBehind? units) :=
  rfl

theorem length_nameBehind?_le
    {units word : List CodeUnit}
    {token : Token}
    (found : nameBehind? units word = some token) :
    token.offset + token.length ≤ token.total ∧
      token.total ≤ units.length := by
  simp only [nameBehind?] at found
  split at found
  · rename_i present
    cases found
    have front := length_le_of_isPrefixOf present.1
    have gap := length_takeWhile_le isBlank (units.drop word.length)
    have name :=
      nameLength_le
        ((units.drop word.length).drop
          ((units.drop word.length).takeWhile isBlank).length)
    rw [List.length_drop] at gap
    rw [List.length_drop, List.length_drop] at name
    exact ⟨Nat.le_refl _, by dsimp only; omega⟩
  · cases found

theorem nameBehind?_append
    {rest : List CodeUnit}
    (stops : Stops rest)
    {word : List CodeUnit}
    (plain : ∀ unit ∈ word, isDelimiter unit.single = false)
    (units : List CodeUnit) :
    nameBehind? (units ++ rest) word = nameBehind? units word := by
  rw [nameBehind?, nameBehind?, isPrefixOf_append stops plain]
  cases starts : word.isPrefixOf units with
  | false => rfl
  | true =>
      rw [List.drop_append_of_le_length (length_le_of_isPrefixOf starts),
        takeWhile_append stops excludes_isBlank,
        List.drop_append_of_le_length (length_takeWhile_le isBlank _),
        nameLength_append stops]

theorem findSome?_congr
    {items : List (List CodeUnit)}
    {first second : List CodeUnit → Option Token}
    (same : ∀ item ∈ items, first item = second item) :
    items.findSome? first = items.findSome? second := by
  induction items with
  | nil => rfl
  | cons item items induction =>
      rw [List.findSome?_cons, List.findSome?_cons,
        same item List.mem_cons_self,
        induction fun other member =>
          same other (List.mem_cons_of_mem item member)]

theorem isDelimited_nameAfter
    {words : List (List CodeUnit)}
    (undelimited : ∀ word ∈ words, IsUndelimited word) :
    (nameAfter words).IsDelimited where
  inside {before units token} found := by
    rw [nameAfter_eq] at found
    split at found
    · cases found
    · rcases List.exists_of_findSome?_eq_some found with ⟨word, _, behind⟩
      exact length_nameBehind?_le behind
  ahead {rest} stops before unit units := by
    rw [nameAfter_eq, nameAfter_eq, ← List.cons_append,
      findSome?_congr fun word member =>
        nameBehind?_append stops (undelimited word member).plain
          (unit :: units)]
  alone {unit} delimiter before rest := by
    have nowhere (others : List CodeUnit) :
        words.findSome? (nameBehind? (unit :: others)) = none := by
      rw [List.findSome?_eq_none_iff]
      intro word member
      simp [nameBehind?,
        isPrefixOf_of_isDelimiter (undelimited word member) delimiter]
    rw [nameAfter_eq, nameAfter_eq, nowhere, nowhere]
    simp
  behind {unit} delimiter units := by
    simp [nameAfter_eq, excludes_isWord unit delimiter]

/-- Delimiters stop the search for every kind of token. -/
theorem isDelimited_of_mem_rules
    {rule : Role × Recogniser}
    (member : rule ∈ rules) :
    rule.2.IsDelimited := by
  simp only [rules, List.mem_cons, List.not_mem_nil, or_false] at member
  rcases member with
    rfl | rfl | rfl | rfl | rfl | rfl | rfl | rfl | rfl
  · exact isDelimited_oneOf (by decide)
  · exact isDelimited_wholeWord (by decide)
  · exact isDelimited_wholeWord (by decide)
  · exact isDelimited_attributeName
  · exact isDelimited_wholeWord (by decide)
  · exact isDelimited_wholeWord (by decide)
  · exact isDelimited_numeral
  · exact isDelimited_nameAfter (by decide)
  · exact isDelimited_nameAfter (by decide)

end ClauseEditor.Highlight
