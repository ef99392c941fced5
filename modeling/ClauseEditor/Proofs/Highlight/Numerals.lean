import ClauseEditor.Proofs.Highlight.WordTokens

/-!
# Numerals and words

A numeral is a single word that is a number, or a decimal numeral with its
fraction: two words, each of them a number, with a point between them.  So
exactly the words that are numbers are taken, whatever stands around them.
-/

namespace ClauseEditor.Highlight

open ClauseEditor.Scallop

/-! ## Numbers -/

/-- The word is a mark with some digits behind it. -/
def isMarked
    (mark : List CodeUnit)
    (isMember : CodeUnit → Bool)
    (word : List CodeUnit) :
    Bool :=
  mark.isPrefixOf word && !(word.drop mark.length).isEmpty &&
    (word.drop mark.length).all isMember

/-- Decimal digits, or hexadecimal or binary ones behind their mark. -/
def isNumber (word : List CodeUnit) : Bool :=
  isMarked [.ofChar '0', .ofChar 'x'] isHexDigit word ||
    isMarked [.ofChar '0', .ofChar 'b'] isBinaryDigit word ||
    word.all isDigit

/-- A word that is a number, or one with a fraction behind it. -/
inductive IsNumeral : List CodeUnit → Prop
  | number
      {word : List CodeUnit}
      (ne_nil : word ≠ [])
      (members : ∀ unit ∈ word, isWord unit = true)
      (number : isNumber word = true) :
      IsNumeral word
  | decimal
      {whole fraction : List CodeUnit}
      (whole_ne_nil : whole ≠ [])
      (wholeDigits : ∀ unit ∈ whole, isDigit unit = true)
      (fraction_ne_nil : fraction ≠ [])
      (fractionDigits : ∀ unit ∈ fraction, isDigit unit = true) :
      IsNumeral (whole ++ (.ofChar '.' :: fraction))

theorem isNumber_of_digits
    {word : List CodeUnit}
    (digits : ∀ unit ∈ word, isDigit unit = true) :
    isNumber word = true := by
  rw [isNumber, List.all_eq_true.mpr digits, Bool.or_true]

/-! ## Marked digits -/

section Marked

variable
    {mark : List CodeUnit}
    {isMember : CodeUnit → Bool}
    (part : IsPartOfWords isMember)

theorem isMarked_append_iff {digits : List CodeUnit} :
    isMarked mark isMember (mark ++ digits) = true ↔
      digits ≠ [] ∧ ∀ unit ∈ digits, isMember unit = true := by
  rw [isMarked, List.drop_left,
    List.isPrefixOf_iff_prefix.mpr (List.prefix_append mark digits),
    Bool.true_and, Bool.and_eq_true, Bool.not_eq_true',
    List.isEmpty_eq_false_iff, List.all_eq_true]

theorem exists_of_isMarked
    {word : List CodeUnit}
    (marked : isMarked mark isMember word = true) :
    ∃ digits,
      mark ++ digits = word ∧ digits ≠ [] ∧
        ∀ unit ∈ digits, isMember unit = true := by
  have starts := marked
  rw [isMarked, Bool.and_assoc, Bool.and_eq_true] at starts
  rcases exists_append_of_isPrefixOf starts.1 with ⟨digits, rfl⟩
  exact ⟨digits, rfl, isMarked_append_iff.mp marked⟩

include part

/-- What is read of a numeral with a mark. -/
theorem exists_of_markedLength
    (markMembers : ∀ unit ∈ mark, isWord unit = true)
    {units : List CodeUnit}
    (present : markedLength mark isMember units ≠ 0) :
    ∃ word rest,
      word ++ rest = units ∧ word ≠ [] ∧
        (∀ unit ∈ word, isWord unit = true) ∧
        isMarked mark isMember word = true ∧ wordEnds rest = true ∧
        markedLength mark isMember units = word.length := by
  rw [markedLength] at present ⊢
  split at present
  · rename_i marked
    rcases marked with ⟨starts, ne_nil, ends⟩
    rcases exists_append_of_isPrefixOf starts with ⟨behind, rfl⟩
    rw [if_pos ⟨starts, ne_nil, ends⟩]
    rw [List.drop_left, List.drop_length_add_append] at ends
    rw [List.drop_left] at ne_nil ⊢
    have split :
        behind.takeWhile isMember ++ behind.dropWhile isMember = behind :=
      List.takeWhile_append_dropWhile
    have members : ∀ unit ∈ behind.takeWhile isMember, isMember unit = true :=
      List.all_eq_true.mp List.all_takeWhile
    generalize behind.takeWhile isMember = digits at *
    generalize behind.dropWhile isMember = rest at split
    subst split
    rw [List.drop_left] at ends
    refine
      ⟨mark ++ digits, rest, List.append_assoc _ _ _,
        List.append_ne_nil_of_right_ne_nil _ ne_nil, ?_,
        isMarked_append_iff.mpr ⟨ne_nil, members⟩, ends,
        List.length_append.symm⟩
    intro unit member
    rcases List.mem_append.mp member with member | member
    · exact markMembers unit member
    · exact part unit (members unit member)
  · exact absurd rfl present

/-- A number with a mark is read whole. -/
theorem markedLength_ne_zero
    {word behind : List CodeUnit}
    (marked : isMarked mark isMember word = true)
    (ends : wordEnds behind = true) :
    markedLength mark isMember (word ++ behind) ≠ 0 := by
  rcases exists_of_isMarked marked with ⟨digits, rfl, ne_nil, members⟩
  have read := takeWhile_of_wordEnds part members ends
  have rest : (mark ++ (digits ++ behind)).drop (mark.length + digits.length) =
      behind := by
    rw [List.drop_length_add_append, List.drop_left]
  rw [markedLength, List.append_assoc, List.drop_left, read, rest,
    if_pos ⟨List.isPrefixOf_iff_prefix.mpr (List.prefix_append _ _), ne_nil,
      ends⟩]
  have positive := List.length_pos_iff.mpr ne_nil
  omega

end Marked

/-! ## Decimal digits -/

theorem exists_of_fractionOf
    {units : List CodeUnit}
    (present : fractionOf units ≠ []) :
    ∃ rest,
      .ofChar '.' :: (fractionOf units ++ rest) = units ∧
        ∀ unit ∈ fractionOf units, isDigit unit = true := by
  rw [fractionOf] at present ⊢
  split at present
  · rename_i point
    rcases List.head?_eq_some_iff.mp point with ⟨behind, rfl⟩
    refine ⟨behind.dropWhile isDigit, ?_, ?_⟩
    · rw [if_pos point, List.drop_one, List.tail_cons,
        List.takeWhile_append_dropWhile]
    · rw [if_pos point, List.drop_one, List.tail_cons]
      exact List.all_eq_true.mp List.all_takeWhile
  · exact absurd rfl present

/-- What is read of a decimal numeral. -/
theorem exists_of_decimalLength
    {units : List CodeUnit}
    (present : decimalLength units ≠ 0) :
    ∃ stretch rest,
      stretch ++ rest = units ∧ IsNumeral stretch ∧ wordEnds rest = true ∧
        decimalLength units = stretch.length := by
  rw [decimalLength_eq] at present ⊢
  dsimp only at present ⊢
  have split : units.takeWhile isDigit ++ units.dropWhile isDigit = units :=
    List.takeWhile_append_dropWhile
  have digits : ∀ unit ∈ units.takeWhile isDigit, isDigit unit = true :=
    List.all_eq_true.mp List.all_takeWhile
  generalize units.takeWhile isDigit = whole at split digits present ⊢
  generalize units.dropWhile isDigit = rest at split
  subst split
  rw [List.drop_left] at present ⊢
  split at present
  · exact absurd rfl present
  · rename_i ne_nil
    rw [if_neg ne_nil]
    split at present
    · rename_i decimal
      rw [if_pos decimal]
      rcases exists_of_fractionOf decimal.1 with ⟨behind, same, fraction⟩
      refine
        ⟨whole ++ (.ofChar '.' :: fractionOf rest), behind, ?_,
          .decimal ne_nil digits decimal.1 fraction, ?_, ?_⟩
      · rw [List.append_assoc, List.cons_append, same]
      · have ends := decimal.2
        rw [Nat.add_assoc, List.drop_length_add_append] at ends
        nth_rewrite 2 [← same] at ends
        rwa [Nat.add_comm, List.drop_succ_cons, List.drop_left] at ends
      · rw [List.length_append, List.length_cons]
        omega
    · rename_i integer
      rw [if_neg integer]
      split at present
      · rename_i ends
        rw [if_pos ends]
        have members (unit : CodeUnit) (member : unit ∈ whole) :=
          isPartOfWords_isDigit unit (digits unit member)
        exact
          ⟨whole, rest, rfl, .number ne_nil members (isNumber_of_digits digits),
            ends, rfl⟩
      · exact absurd rfl present

theorem decimalLength_ne_zero
    {word behind : List CodeUnit}
    (ne_nil : word ≠ [])
    (digits : ∀ unit ∈ word, isDigit unit = true)
    (ends : wordEnds behind = true) :
    decimalLength (word ++ behind) ≠ 0 := by
  have read := takeWhile_of_wordEnds isPartOfWords_isDigit digits ends
  have positive := List.length_pos_iff.mpr ne_nil
  rw [decimalLength_eq, read]
  dsimp only
  rw [List.drop_left, if_neg ne_nil]
  split
  · omega
  · exact Nat.pos_iff_ne_zero.mp positive

/-! ## Numerals in a line -/

theorem exists_of_mem_numeralLengths
    {units : List CodeUnit}
    {length : Nat}
    (listed : length ∈ numeralLengths units)
    (present : length ≠ 0) :
    ∃ stretch rest,
      stretch ++ rest = units ∧ IsNumeral stretch ∧ wordEnds rest = true ∧
        length = stretch.length := by
  simp only [numeralLengths, List.mem_cons, List.not_mem_nil, or_false]
    at listed
  rcases listed with rfl | rfl | rfl
  · rcases exists_of_markedLength isPartOfWords_isHexDigit (by decide) present
      with ⟨word, rest, whole, ne_nil, members, marked, ends, length⟩
    have isOne : isNumber word = true := by
      rw [isNumber, marked, Bool.true_or, Bool.true_or]
    exact ⟨word, rest, whole, .number ne_nil members isOne, ends, length⟩
  · rcases exists_of_markedLength isPartOfWords_isBinaryDigit (by decide)
      present with ⟨word, rest, whole, ne_nil, members, marked, ends, length⟩
    have isOne : isNumber word = true := by
      rw [isNumber, marked, Bool.or_true, Bool.true_or]
    exact ⟨word, rest, whole, .number ne_nil members isOne, ends, length⟩
  · exact exists_of_decimalLength present

/-- A word that is a number has a length as a numeral. -/
theorem exists_mem_numeralLengths
    {word behind : List CodeUnit}
    (ne_nil : word ≠ [])
    (number : isNumber word = true)
    (ends : wordEnds behind = true) :
    ∃ length ∈ numeralLengths (word ++ behind), length ≠ 0 := by
  rw [isNumber, Bool.or_eq_true, Bool.or_eq_true] at number
  rcases number with (hexadecimal | binary) | decimal
  · exact
      ⟨_, List.mem_cons_self,
        markedLength_ne_zero isPartOfWords_isHexDigit hexadecimal ends⟩
  · exact
      ⟨_, List.mem_cons_of_mem _ List.mem_cons_self,
        markedLength_ne_zero isPartOfWords_isBinaryDigit binary ends⟩
  · exact
      ⟨_, List.mem_cons_of_mem _ (List.mem_cons_of_mem _ List.mem_cons_self),
        decimalLength_ne_zero ne_nil (List.all_eq_true.mp decimal) ends⟩

theorem exists_of_recognises_numeral
    {left right : List CodeUnit}
    {token : Token}
    (recognises : Recognises numeral left right token) :
    ∃ stretch rest,
      stretch ++ rest = right ∧ IsNumeral stretch ∧
        token = .whole stretch.length ∧ left.getLast?.any isWord = false ∧
        wordEnds rest = true := by
  have found := recognises.found
  rw [numeral_eq] at found
  split at found
  · cases found
  · rename_i starts
    rcases Option.map_eq_some_iff.mp found with ⟨length, chosen, rfl⟩
    have present : length ≠ 0 := by
      simpa using List.find?_some chosen
    rcases exists_of_mem_numeralLengths (List.mem_of_find?_eq_some chosen)
      present with ⟨stretch, rest, whole, isNumeral, ends, rfl⟩
    exact
      ⟨stretch, rest, whole, isNumeral, rfl, Bool.eq_false_iff.mpr starts, ends⟩

theorem showsWhole_numeral : numeral.ShowsWhole := by
  intro before units token found
  rw [numeral_eq] at found
  split at found
  · cases found
  · rcases Option.map_eq_some_iff.mp found with ⟨length, chosen, rfl⟩
    have present : length ≠ 0 := by
      simpa using List.find?_some chosen
    exact ⟨length, rfl, Nat.pos_iff_ne_zero.mpr present⟩

theorem keepsWords_numeral : numeral.KeepsWords := by
  intro left right token recognises
  rcases exists_of_recognises_numeral recognises with
    ⟨stretch, rest, rfl, _, rfl, starts, ends⟩
  rw [Token.whole, Nat.zero_add, List.take_zero, List.drop_zero,
    List.append_nil, List.take_left, List.drop_left]
  exact ⟨.inl starts, .inr ends⟩

/-- A word in a numeral is a number. -/
theorem IsWordRun.isNumber_of_covered
    {front word behind left stretch rest : List CodeUnit}
    (run : IsWordRun front word behind)
    (isNumeral : IsNumeral stretch)
    (starts : left.getLast?.any isWord = false)
    (ends : wordEnds rest = true)
    (whole : left ++ (stretch ++ rest) = front ++ (word ++ behind))
    (lower : left.length ≤ front.length)
    (upper : front.length < left.length + stretch.length) :
    isNumber word = true := by
  cases isNumeral with
  | number ne_nil members number =>
      obtain ⟨_, rfl, _⟩ :=
        run.eq_of_overlap ⟨ne_nil, members, starts, ends⟩ whole lower upper
      exact number
  | @decimal integer fraction integer_ne_nil integerDigits fraction_ne_nil
      fractionDigits =>
      have integerRun :
          IsWordRun left integer (.ofChar '.' :: (fraction ++ rest)) :=
        ⟨integer_ne_nil, fun unit member =>
          isPartOfWords_isDigit unit (integerDigits unit member), starts, rfl⟩
      have fractionRun :
          IsWordRun (left ++ integer ++ [.ofChar '.']) fraction rest :=
        ⟨fraction_ne_nil, fun unit member =>
          isPartOfWords_isDigit unit (fractionDigits unit member),
          by rw [List.getLast?_concat]; rfl, ends⟩
      rw [List.append_assoc, List.cons_append] at whole
      rw [List.length_append, List.length_cons] at upper
      rcases Nat.lt_trichotomy front.length (left.length + integer.length) with
        before | same | after
      · obtain ⟨_, rfl, _⟩ :=
          run.eq_of_overlap integerRun whole lower before
        exact isNumber_of_digits integerDigits
      · -- The point itself belongs to no word.
        rw [← List.append_assoc] at whole
        obtain ⟨_, ahead⟩ :=
          List.append_inj whole (by rw [List.length_append, same])
        rcases List.exists_cons_of_ne_nil run.ne_nil with ⟨first, more, rfl⟩
        have isWord := run.members first List.mem_cons_self
        rw [← (List.cons.inj ahead).1] at isWord
        cases isWord
      · rw [← List.append_assoc, ← List.singleton_append,
          ← List.append_assoc] at whole
        have position :
            (left ++ integer ++ [CodeUnit.ofChar '.']).length =
              left.length + integer.length + 1 := by
          rw [List.length_append, List.length_append, List.length_singleton]
        obtain ⟨_, rfl, _⟩ :=
          run.eq_of_overlap fractionRun whole (by omega) (by omega)
        exact isNumber_of_digits fractionDigits

/-- Exactly the words that are numbers are taken. -/
theorem IsWordRun.takes_numeral_iff
    {front word behind : List CodeUnit}
    (run : IsWordRun front word behind) :
    Takes numeral (front ++ (word ++ behind)) front.length ↔
      isNumber word = true := by
  constructor
  · intro takes
    rcases takes.exists_recognises with
      ⟨left, right, token, whole, recognises, lower, upper⟩
    rcases exists_of_recognises_numeral recognises with
      ⟨stretch, rest, rfl, isNumeral, rfl, starts, ends⟩
    exact run.isNumber_of_covered isNumeral starts ends whole lower upper
  · intro number
    rcases exists_mem_numeralLengths run.ne_nil number run.ends with
      ⟨length, listed, present⟩
    have chosen :
        ((numeralLengths (word ++ behind)).find? (· ≠ 0)).isSome = true :=
      List.find?_isSome.mpr ⟨length, listed, decide_eq_true present⟩
    rcases Option.isSome_iff_exists.mp chosen with ⟨first, chosen⟩
    have recognises :
        Recognises numeral front (word ++ behind) (.whole first) := by
      refine ⟨List.append_ne_nil_of_left_ne_nil run.ne_nil _, ?_⟩
      rw [numeral_eq, if_neg (Bool.eq_false_iff.mp run.starts), chosen]
      rfl
    exact recognises.takes showsWhole_numeral

end ClauseEditor.Highlight
