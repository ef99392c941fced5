import ClauseEditor.Proofs.Json.Leaves
import ClauseEditor.Proofs.Json.RoundTrip

/-!
# Texts are read by the grammar

The reader of values takes exactly the texts that the grammar allows, and
gives each of them the value that the grammar gives it.  One half follows the
derivation of a text, for every text that may stand behind it; the other half
follows the reader and builds the derivation.

So a text denotes at most one value, and whether it is an object, and with
which members, can be told from the grammar alone.
-/

namespace ClauseEditor.Json

/-! ## Separators -/

section Separators

variable {before text rest : Text}

theorem skipSeparators_append
    (blank : Blank before)
    (text : Text) :
    skipSeparators (before ++ text) = skipSeparators text :=
  List.dropWhile_append_of_pos blank

/-- The separators in front of a text. -/
theorem exists_blank (text : Text) :
    ∃ before, Blank before ∧ text = before ++ skipSeparators text := by
  refine ⟨text.takeWhile isSeparator, ?_, ?_⟩
  · intro c member
    exact List.mem_takeWhile_imp member
  · exact List.takeWhile_append_dropWhile.symm

theorem blank_nil : Blank [] :=
  List.forall_mem_nil _

theorem Blank.append
    (first : Blank before)
    (second : Blank text) :
    Blank (before ++ text) :=
  List.forall_mem_append.mpr ⟨first, second⟩

/-- A text that may stand behind a value and the separators after it. -/
structure Closes (rest : Text) : Prop where
  ends : Ends rest
  skipSeparators : skipSeparators rest = rest

theorem closes_cons
    {c : CodePoint}
    (closing : c ∈ Text.ofString ",]" ∨ c.val = 0x7D)
    (rest : Text) :
    Closes (c :: rest) := by
  have plain : ∀ c ∈ Text.ofString ",]\x7d",
      (isDigit c = false ∧ c ≠ '.' ∧ c ≠ 'e' ∧ c ≠ 'E') ∧
        isSeparator c = false := by
    decide
  have listed : c ∈ Text.ofString ",]\x7d" := by
    rcases closing with listed | brace
    · exact List.mem_append_left (Text.ofString "\x7d") listed
    · have same : c = CodePoint.ofChar '\x7d' := CodePoint.ext brace
      exact same ▸ List.mem_append_right (Text.ofString ",]") List.mem_cons_self
  constructor
  · rintro _ ⟨⟩
    exact (plain c listed).1
  · exact List.dropWhile_cons_of_neg (ne_true_of_eq_false (plain c listed).2)

theorem Closes.skipSeparators_append
    (closes : Closes rest)
    (blank : Blank before) :
    Json.skipSeparators (before ++ rest) = rest := by
  rw [Json.skipSeparators_append blank, closes.skipSeparators]

/-- A separator does not belong to a numeral. -/
theorem Closes.ends_append
    (closes : Closes rest)
    (blank : Blank before) :
    Ends (before ++ rest) := by
  cases before with
  | nil => exact closes.ends
  | cons c more =>
      rintro _ ⟨⟩
      have separator := blank c List.mem_cons_self
      simp only [isSeparator, Bool.or_eq_true, decide_eq_true_eq] at separator
      rcases separator with ((rfl | rfl) | rfl) | rfl
      · decide
      · decide
      · decide
      · decide

end Separators

/-! ## What the grammar allows is read -/

/-- A value is read from its text, whatever stands behind it. -/
def ReadsValue (text : Text) (value : Json) : Prop :=
  ∀ fuel rest,
    Ends rest → 2 * text.length < fuel →
      readValue? fuel (text ++ rest) = some (value, rest)

/-- The same with separators around the value. -/
def ReadsText (text : Text) (value : Json) : Prop :=
  ∀ fuel rest,
    Closes rest → 2 * text.length < fuel →
      ∃ behind,
        readValue? fuel (skipSeparators (text ++ rest)) =
            some (value, behind) ∧
          skipSeparators behind = rest

/-- The items of an array are read up to its end, if there are any. -/
def ReadsItems (text : Text) (items : List Json) : Prop :=
  items ≠ [] →
    ∀ fuel rest,
      2 * text.length + 1 < fuel →
        readItems? fuel
            (skipSeparators (text ++ CodePoint.ofChar ']' :: rest)) =
          some (items, rest)

/-- A member is read, and the character behind it decides how it goes on. -/
def ReadsMember (text : Text) (member : Text × Json) : Prop :=
  ∀ fuel c rest,
    Closes (c :: rest) → 2 * text.length < fuel →
      readMembers? (fuel + 1) (skipSeparators (text ++ c :: rest)) =
        if c.val = 0x7D then some ([member], rest)
        else if c = ',' then
          (readMembers? fuel (skipSeparators rest)).map fun read =>
            (member :: read.1, read.2)
        else none

/-- The members of an object are read up to its end, if there are any. -/
def ReadsMembers (text : Text) (members : Members) : Prop :=
  members ≠ [] →
    ∀ fuel rest,
      2 * text.length + 1 < fuel →
        readMembers? fuel (skipSeparators (text ++ brace :: rest)) =
          some (members, rest)

section Reads

variable
    {text before body after inside others rest : Text}
    {key : Text}
    {value item : Json}
    {items : List Json}
    {member : Text × Json}
    {members : Members}
    {fuel : Nat}

/-! ### Values -/

theorem readsValue_of_succ
    (reads :
      ∀ fuel rest,
        Ends rest → 2 * text.length < fuel + 1 →
          readValue? (fuel + 1) (text ++ rest) = some (value, rest)) :
    ReadsValue text value := by
  intro fuel rest ends enough
  rcases Nat.exists_eq_add_one.mpr (Nat.zero_lt_of_lt enough) with ⟨fewer, rfl⟩
  exact reads fewer rest ends enough

theorem readsValue_infinity (negative : Bool) :
    ReadsValue (Text.minusIf negative ++ Text.ofString "Infinity")
      (.number (.infinite negative)) := by
  apply readsValue_of_succ
  intro fuel rest _ _
  cases negative with
  | false => rfl
  | true => rfl

theorem readsValue_numeral
    {negative : Bool}
    (isNumeral : IsNumeral negative text value) :
    ReadsValue (Text.minusIf negative ++ text) value := by
  apply readsValue_of_succ
  intro fuel rest ends _
  have read := isNumeral.read ends
  cases negative with
  | false => exact readValue?_of_readUnsigned? read
  | true =>
      rw [Text.minusIf, if_pos rfl, List.append_assoc]
      exact readValue?_minus read

theorem readsValue_string
    (spells : Spells body key) :
    ReadsValue (quotation body) (.string key) := by
  apply readsValue_of_succ
  intro fuel rest _ enough
  have shape :
      quotation body ++ rest =
        CodePoint.ofChar '"' :: (body ++ CodePoint.ofChar '"' :: rest) := by
    rw [quotation, List.append_assoc, List.append_assoc]
    rfl
  have shorter : body.length < fuel := by
    have length := congrArg List.length shape
    simp only [List.length_append, List.length_cons] at length enough
    omega
  rw [shape, readValue?, if_pos rfl, spells.read shorter rest]
  rfl

theorem readsValue_array
    (areItems : AreItems inside items)
    (reads : ReadsItems inside items) :
    ReadsValue (Text.ofString "[" ++ inside ++ Text.ofString "]")
      (.array items) := by
  apply readsValue_of_succ
  intro fuel rest _ enough
  have shape :
      Text.ofString "[" ++ inside ++ Text.ofString "]" ++ rest =
        CodePoint.ofChar '[' :: (inside ++ CodePoint.ofChar ']' :: rest) := by
    rw [List.append_assoc, List.append_assoc]
    rfl
  have shorter : 2 * inside.length + 1 < fuel := by
    have length := congrArg List.length shape
    simp only [List.length_append, List.length_cons] at length enough
    omega
  have noQuote : CodePoint.ofChar '[' ≠ '"' := by decide
  rw [shape, readValue?, if_neg noQuote, if_pos rfl]
  by_cases empty : items = []
  · subst empty
    cases areItems with
    | empty blank =>
        have closes : Closes (CodePoint.ofChar ']' :: rest) :=
          closes_cons (Or.inl (by decide)) rest
        rw [closes.skipSeparators_append blank]
        rfl
  · have read := reads empty fuel rest shorter
    generalize
      skipSeparators (inside ++ CodePoint.ofChar ']' :: rest) = text
      at read ⊢
    obtain ⟨fewer, rfl⟩ : ∃ fewer, fuel = fewer + 1 :=
      Nat.exists_eq_add_one.mpr (Nat.zero_lt_of_lt shorter)
    have first := read
    rw [readItems?] at first
    rcases Option.bind_eq_some_iff.mp first with ⟨_, found, _⟩
    rcases begins_of_readValue? found with ⟨c, more, rfl, _, noBracket⟩
    dsimp only
    rw [if_neg noBracket, read]
    rfl

/-- Members start with a quote. -/
theorem exists_quote_of_readMembers?
    {read : Members × Text}
    (found : readMembers? fuel text = some read) :
    ∃ more, text = CodePoint.ofChar '"' :: more := by
  match fuel, text, found with
  | fuel + 1, c :: more, found =>
      rw [readMembers?] at found
      split at found
      · rename_i quote
        exact ⟨more, quote ▸ rfl⟩
      · cases found

theorem readsValue_object
    (areMembers : AreMembers inside members)
    (reads : ReadsMembers inside members) :
    ReadsValue (Text.ofString "\x7b" ++ inside ++ Text.ofString "\x7d")
      (.object (Members.ofList members)) := by
  apply readsValue_of_succ
  intro fuel rest _ enough
  have shape :
      Text.ofString "\x7b" ++ inside ++ Text.ofString "\x7d" ++ rest =
        CodePoint.ofChar '\x7b' :: (inside ++ brace :: rest) := by
    rw [List.append_assoc, List.append_assoc]
    rfl
  have shorter : 2 * inside.length + 1 < fuel := by
    have length := congrArg List.length shape
    simp only [List.length_append, List.length_cons] at length enough
    omega
  have noQuote : CodePoint.ofChar '\x7b' ≠ '"' := by decide
  have noBracket : CodePoint.ofChar '\x7b' ≠ '[' := by decide
  have isBrace : (CodePoint.ofChar '\x7b').val = 0x7B := rfl
  rw [shape, readValue?, if_neg noQuote, if_neg noBracket, if_pos isBrace]
  by_cases empty : members = []
  · subst empty
    cases areMembers with
    | empty blank =>
        have closes : Closes (brace :: rest) := closes_cons (Or.inr rfl) rest
        rw [closes.skipSeparators_append blank]
        rfl
  · have read := reads empty fuel rest shorter
    generalize skipSeparators (inside ++ brace :: rest) = text at read ⊢
    rcases exists_quote_of_readMembers? read with ⟨more, rfl⟩
    have noBrace : (CodePoint.ofChar '"').val ≠ 0x7D := by decide
    dsimp only
    rw [if_neg noBrace, read]
    rfl

/-! ### Values with separators around them -/

theorem readsText_around
    (blankBefore : Blank before)
    (reads : ReadsValue text value)
    (blankAfter : Blank after) :
    ReadsText (before ++ (text ++ after)) value := by
  intro fuel rest closes enough
  have shorter : 2 * text.length < fuel := by
    simp only [List.length_append] at enough
    omega
  have read :=
    reads fuel (after ++ rest) (closes.ends_append blankAfter) shorter
  refine ⟨after ++ rest, ?_, closes.skipSeparators_append blankAfter⟩
  rw [List.append_assoc, List.append_assoc, skipSeparators_append blankBefore,
    (begins_of_readValue? read).skipSeparators, read]

/-! ### Items -/

theorem readsItems_empty (text : Text) : ReadsItems text [] :=
  fun notEmpty => absurd rfl notEmpty

theorem readsItems_last
    (reads : ReadsText text item) :
    ReadsItems text [item] := by
  intro _ fuel rest enough
  rcases Nat.exists_eq_add_one.mpr (Nat.zero_lt_of_lt enough) with ⟨fewer, rfl⟩
  have closes : Closes (CodePoint.ofChar ']' :: rest) :=
    closes_cons (Or.inl (by decide)) rest
  rcases reads fewer _ closes (by omega) with ⟨behind, read, next⟩
  rw [readItems?, read, Option.bind_eq_bind, Option.bind_some]
  dsimp only
  rw [next]
  rfl

theorem readsItems_more
    (reads : ReadsText text item)
    (readsOthers : ReadsItems others items)
    (notEmpty : items ≠ []) :
    ReadsItems (text ++ (Text.ofString "," ++ others)) (item :: items) := by
  intro _ fuel rest enough
  rcases Nat.exists_eq_add_one.mpr (Nat.zero_lt_of_lt enough) with ⟨fewer, rfl⟩
  have shape :
      text ++ (Text.ofString "," ++ others) ++ CodePoint.ofChar ']' :: rest =
        text ++ CodePoint.ofChar ',' ::
          (others ++ CodePoint.ofChar ']' :: rest) := by
    rw [List.append_assoc, List.append_assoc]
    rfl
  have length := congrArg List.length shape
  simp only [List.length_append, List.length_cons] at length enough
  have closes :
      Closes (CodePoint.ofChar ',' ::
        (others ++ CodePoint.ofChar ']' :: rest)) :=
    closes_cons (Or.inl (by decide)) _
  have noBracket : CodePoint.ofChar ',' ≠ ']' := by decide
  rcases reads fewer _ closes (by omega) with ⟨behind, read, next⟩
  rw [shape, readItems?, read, Option.bind_eq_bind, Option.bind_some]
  dsimp only
  rw [next]
  dsimp only
  rw [if_neg noBracket, if_pos rfl, readsOthers notEmpty fewer rest (by omega)]
  rfl

/-! ### Members -/

theorem readsMember_pair
    (blankBefore : Blank before)
    (spells : Spells body key)
    (blankAfter : Blank after)
    (reads : ReadsText text value) :
    ReadsMember
      (before ++ (quotation body ++ (after ++ (Text.ofString ":" ++ text))))
      (key, value) := by
  intro fuel c rest closes enough
  have shape :
      before ++ (quotation body ++ (after ++ (Text.ofString ":" ++ text))) ++
          c :: rest =
        before ++ CodePoint.ofChar '"' :: (body ++ CodePoint.ofChar '"' ::
          (after ++ (Text.ofString ":" ++ (text ++ c :: rest)))) := by
    simp only [quotation, List.append_assoc]
    rfl
  have length := congrArg List.length shape
  simp only [List.length_append, List.length_cons] at length enough
  have quote (text : Text) :
      skipSeparators (CodePoint.ofChar '"' :: text) =
        CodePoint.ofChar '"' :: text := rfl
  have colon :
      after? ":" (skipSeparators
          (after ++ (Text.ofString ":" ++ (text ++ c :: rest)))) =
        some (text ++ c :: rest) := by
    rw [skipSeparators_append blankAfter]
    exact after?_append ":" _
  rcases reads fuel (c :: rest) closes (by omega) with ⟨behind, read, next⟩
  rw [shape, skipSeparators_append blankBefore, quote, readMembers?, if_pos rfl,
    spells.read (by omega)]
  simp only [Option.bind_eq_bind, Option.bind_some, colon, read, next]
  cases readMembers? fuel (skipSeparators rest) <;> rfl

theorem readsMembers_empty (text : Text) : ReadsMembers text [] :=
  fun notEmpty => absurd rfl notEmpty

theorem readsMembers_last
    (reads : ReadsMember text member) :
    ReadsMembers text [member] := by
  intro _ fuel rest enough
  rcases Nat.exists_eq_add_one.mpr (Nat.zero_lt_of_lt enough) with ⟨fewer, rfl⟩
  have closes : Closes (brace :: rest) := closes_cons (Or.inr rfl) rest
  rw [reads fewer brace rest closes (by omega)]
  rfl

theorem readsMembers_more
    (reads : ReadsMember text member)
    (readsOthers : ReadsMembers others members)
    (notEmpty : members ≠ []) :
    ReadsMembers (text ++ (Text.ofString "," ++ others))
      (member :: members) := by
  intro _ fuel rest enough
  rcases Nat.exists_eq_add_one.mpr (Nat.zero_lt_of_lt enough) with ⟨fewer, rfl⟩
  have shape :
      text ++ (Text.ofString "," ++ others) ++ brace :: rest =
        text ++ CodePoint.ofChar ',' :: (others ++ brace :: rest) := by
    rw [List.append_assoc, List.append_assoc]
    rfl
  have length := congrArg List.length shape
  simp only [List.length_append, List.length_cons] at length enough
  have closes :
      Closes (CodePoint.ofChar ',' :: (others ++ brace :: rest)) :=
    closes_cons (Or.inl (by decide)) _
  have noBrace : (CodePoint.ofChar ',').val ≠ 0x7D := by decide
  rw [shape, reads fewer _ _ closes (by omega), if_neg noBrace, if_pos rfl,
    readsOthers notEmpty fewer rest (by omega)]
  rfl

/-! ### All constructs -/

mutual

theorem IsValue.reads {text : Text} {value : Json} :
    IsValue text value → ReadsValue text value
  | .null => readsValue_of_succ fun _ _ _ _ => rfl
  | .true => readsValue_of_succ fun _ _ _ _ => rfl
  | .false => readsValue_of_succ fun _ _ _ _ => rfl
  | .nan => readsValue_of_succ fun _ _ _ _ => rfl
  | .infinity negative => readsValue_infinity negative
  | .numeral isNumeral => readsValue_numeral isNumeral
  | .string spells => readsValue_string spells
  | .array areItems => readsValue_array areItems areItems.reads
  | .object areMembers => readsValue_object areMembers areMembers.reads

theorem Denotes.reads {text : Text} {value : Json} :
    Denotes text value → ReadsText text value
  | .around blankBefore isValue blankAfter =>
      readsText_around blankBefore isValue.reads blankAfter

theorem AreItems.reads {text : Text} {items : List Json} :
    AreItems text items → ReadsItems text items
  | .empty _ => readsItems_empty text
  | .last denotes => readsItems_last denotes.reads
  | .more denotes areItems notEmpty =>
      readsItems_more denotes.reads areItems.reads notEmpty

theorem IsMember.reads {text : Text} {member : Text × Json} :
    IsMember text member → ReadsMember text member
  | .pair blankBefore spells blankAfter denotes =>
      readsMember_pair blankBefore spells blankAfter denotes.reads

theorem AreMembers.reads {text : Text} {members : Members} :
    AreMembers text members → ReadsMembers text members
  | .empty _ => readsMembers_empty text
  | .last isMember => readsMembers_last isMember.reads
  | .more isMember areMembers notEmpty =>
      readsMembers_more isMember.reads areMembers.reads notEmpty

end

end Reads

/-! ## What is read is allowed by the grammar -/

section Separated

variable {before text : Text}

/-! More separators may stand in front of what has separators around it. -/

theorem Denotes.prepend
    {value : Json}
    (denotes : Denotes text value)
    (blank : Blank before) :
    Denotes (before ++ text) value := by
  cases denotes with
  | around blankBefore isValue blankAfter =>
      rw [← List.append_assoc]
      exact .around (blank.append blankBefore) isValue blankAfter

theorem AreItems.prepend
    {items : List Json}
    (areItems : AreItems text items)
    (blank : Blank before) :
    AreItems (before ++ text) items := by
  cases areItems with
  | empty blankText => exact .empty (blank.append blankText)
  | last denotes => exact .last (denotes.prepend blank)
  | more denotes areItems notEmpty =>
      rw [← List.append_assoc]
      exact .more (denotes.prepend blank) areItems notEmpty

theorem IsMember.prepend
    {member : Text × Json}
    (isMember : IsMember text member)
    (blank : Blank before) :
    IsMember (before ++ text) member := by
  cases isMember with
  | pair blankBefore spells blankAfter denotes =>
      rw [← List.append_assoc]
      exact .pair (blank.append blankBefore) spells blankAfter denotes

theorem AreMembers.prepend
    {members : Members}
    (areMembers : AreMembers text members)
    (blank : Blank before) :
    AreMembers (before ++ text) members := by
  cases areMembers with
  | empty blankText => exact .empty (blank.append blankText)
  | last isMember => exact .last (isMember.prepend blank)
  | more isMember areMembers notEmpty =>
      rw [← List.append_assoc]
      exact .more (isMember.prepend blank) areMembers notEmpty

end Separated

/--
What the readers make of a text with some amount of fuel: the front that they
take is allowed by the grammar.
-/
structure ReadsGrammar (fuel : Nat) : Prop where
  value
    {text rest : Text}
    {value : Json}
    (read : readValue? fuel text = some (value, rest)) :
    ∃ front, text = front ++ rest ∧ IsValue front value
  items
    {text rest : Text}
    {items : List Json}
    (read : readItems? fuel text = some (items, rest)) :
    ∃ front,
      text = front ++ CodePoint.ofChar ']' :: rest ∧ AreItems front items ∧
        items ≠ []
  members
    {text rest : Text}
    {members : Members}
    (read : readMembers? fuel text = some (members, rest)) :
    ∃ front,
      text = front ++ brace :: rest ∧ AreMembers front members ∧ members ≠ []

section Words

variable {text rest : Text} {value : Json}

/-- A word whose first character has been read. -/
theorem isValue_of_word
    {word behind : String}
    {letter : Char}
    {meant : Json}
    (isValue : IsValue (Text.ofString word) meant)
    (split : Text.ofString word = CodePoint.ofChar letter :: Text.ofString behind)
    (read :
      (after? behind text).map (fun rest => (meant, rest)) =
        some (value, rest)) :
    ∃ front,
      CodePoint.ofChar letter :: text = front ++ rest ∧ IsValue front value := by
  rcases Option.map_eq_some_iff.mp read with ⟨after, starts, same⟩
  cases same
  refine ⟨_, ?_, isValue⟩
  rw [eq_of_after? starts, split, List.cons_append]

/-- A numeral with its sign, if it has one. -/
theorem isValue_of_readUnsigned?
    {negative : Bool}
    (read : readUnsigned? negative text = some (value, rest)) :
    ∃ front,
      Text.minusIf negative ++ text = front ++ rest ∧ IsValue front value := by
  rcases isNumeral_of_readUnsigned? read with ⟨front, rfl, isNumeral⟩
  exact ⟨_, (List.append_assoc _ _ _).symm, .numeral isNumeral⟩

/-- A value that is neither quoted nor nested is a word or a numeral. -/
theorem isValue_of_plain
    {c : CodePoint}
    {fuel : Nat}
    (noQuote : c ≠ '"')
    (noBracket : c ≠ '[')
    (noBrace : c.val ≠ 0x7B)
    (read : readValue? (fuel + 1) (c :: text) = some (value, rest)) :
    ∃ front, c :: text = front ++ rest ∧ IsValue front value := by
  rw [readValue?, if_neg noQuote, if_neg noBracket, if_neg noBrace] at read
  by_cases isNull : c = 'n'
  · rw [if_pos isNull] at read
    subst isNull
    exact isValue_of_word .null rfl read
  rw [if_neg isNull] at read
  by_cases isTrue : c = 't'
  · rw [if_pos isTrue] at read
    subst isTrue
    exact isValue_of_word .true rfl read
  rw [if_neg isTrue] at read
  by_cases isFalse : c = 'f'
  · rw [if_pos isFalse] at read
    subst isFalse
    exact isValue_of_word .false rfl read
  rw [if_neg isFalse] at read
  by_cases isNan : c = 'N'
  · rw [if_pos isNan] at read
    subst isNan
    exact isValue_of_word .nan rfl read
  rw [if_neg isNan] at read
  by_cases isInfinity : c = 'I'
  · rw [if_pos isInfinity] at read
    subst isInfinity
    have infinity : IsValue (Text.ofString "Infinity") _ := .infinity false
    exact isValue_of_word infinity rfl read
  rw [if_neg isInfinity] at read
  by_cases isMinus : c = '-'
  · rw [if_pos isMinus] at read
    subst isMinus
    split at read
    · rename_i after starts
      cases read
      refine ⟨_, ?_, .infinity true⟩
      rw [eq_of_after? starts]
      rfl
    · exact isValue_of_readUnsigned? read
  · rw [if_neg isMinus] at read
    exact isValue_of_readUnsigned? read

end Words

namespace ReadsGrammar

variable {fuel : Nat} (grammar : ReadsGrammar fuel) {text rest : Text}

include grammar

/-- A value with the separators behind it. -/
theorem denotes_of_readValue?
    {value : Json}
    (read : readValue? fuel text = some (value, rest)) :
    ∃ front, text = front ++ skipSeparators rest ∧ Denotes front value := by
  rcases grammar.value read with ⟨front, rfl, isValue⟩
  rcases exists_blank rest with ⟨space, blank, shape⟩
  refine ⟨front ++ space, ?_, .around blank_nil isValue blank⟩
  rw [List.append_assoc, ← shape]

/-- A member whose first quote has been read, up to what follows its value. -/
theorem isMember_of_read
    {key afterKey afterColon : Text}
    {value : Json}
    (found : readString? fuel text = some (key, afterKey))
    (colon : after? ":" (skipSeparators afterKey) = some afterColon)
    (foundValue :
      readValue? fuel (skipSeparators afterColon) = some (value, rest)) :
    ∃ front,
      CodePoint.ofChar '"' :: text = front ++ skipSeparators rest ∧
        IsMember front (key, value) := by
  rcases spells_of_readString? found with ⟨body, rfl, spells⟩
  rcases exists_blank afterKey with ⟨spaceKey, blankKey, shapeKey⟩
  rcases exists_blank afterColon with ⟨spaceColon, blankColon, shapeColon⟩
  rcases grammar.denotes_of_readValue? foundValue with ⟨front, same, denotes⟩
  rw [eq_of_after? colon] at shapeKey
  rw [same] at shapeColon
  refine ⟨_, ?_, .pair blank_nil spells blankKey (denotes.prepend blankColon)⟩
  rw [shapeKey, shapeColon]
  simp only [quotation, List.append_assoc]
  rfl

theorem items_succ
    {items : List Json}
    (read : readItems? (fuel + 1) text = some (items, rest)) :
    ∃ front,
      text = front ++ CodePoint.ofChar ']' :: rest ∧ AreItems front items ∧
        items ≠ [] := by
  rw [readItems?] at read
  rcases Option.bind_eq_some_iff.mp read with ⟨⟨item, behind⟩, found, chosen⟩
  rcases grammar.denotes_of_readValue? found with ⟨front, shape, denotes⟩
  dsimp only at chosen
  split at chosen
  · cases chosen
  · rename_i next after skipped
    rw [skipped] at shape
    split at chosen
    · rename_i bracket
      cases chosen
      exact ⟨front, bracket ▸ shape, .last denotes, List.cons_ne_nil _ _⟩
    · split at chosen
      · rename_i comma
        rcases Option.bind_eq_some_iff.mp chosen
          with ⟨⟨more, last⟩, others, same⟩
        cases same
        rcases exists_blank after with ⟨space, blank, shapeAfter⟩
        rcases grammar.items others with ⟨inside, same, areItems, notEmpty⟩
        refine ⟨_, ?_, .more denotes (areItems.prepend blank) notEmpty,
          List.cons_ne_nil _ _⟩
        rw [shape, comma, shapeAfter, same]
        simp only [List.append_assoc]
        rfl
      · cases chosen

theorem members_succ
    {members : Members}
    (read : readMembers? (fuel + 1) text = some (members, rest)) :
    ∃ front,
      text = front ++ brace :: rest ∧ AreMembers front members ∧
        members ≠ [] := by
  cases text with
  | nil => cases read
  | cons c following =>
      rw [readMembers?] at read
      split at read
      · rename_i quote
        rcases Option.bind_eq_some_iff.mp read
          with ⟨⟨key, afterKey⟩, found, chosen⟩
        rcases Option.bind_eq_some_iff.mp chosen
          with ⟨afterColon, colon, chosen⟩
        rcases Option.bind_eq_some_iff.mp chosen
          with ⟨⟨value, behind⟩, foundValue, chosen⟩
        rcases grammar.isMember_of_read found colon foundValue
          with ⟨front, shape, isMember⟩
        rw [← quote] at shape
        dsimp only at chosen
        split at chosen
        · cases chosen
        · rename_i next after skipped
          rw [skipped] at shape
          split at chosen
          · rename_i closing
            have isBrace : next = brace := CodePoint.ext closing
            cases chosen
            exact ⟨front, isBrace ▸ shape, .last isMember, List.cons_ne_nil _ _⟩
          · split at chosen
            · rename_i comma
              rcases Option.bind_eq_some_iff.mp chosen
                with ⟨⟨more, last⟩, others, same⟩
              cases same
              rcases exists_blank after with ⟨space, blank, shapeAfter⟩
              rcases grammar.members others
                with ⟨inside, same, areMembers, notEmpty⟩
              refine ⟨_, ?_,
                .more isMember (areMembers.prepend blank) notEmpty,
                List.cons_ne_nil _ _⟩
              rw [shape, comma, shapeAfter, same]
              simp only [List.append_assoc]
              rfl
            · cases chosen
      · cases read

theorem array_succ
    {value : Json}
    (read :
      readValue? (fuel + 1) (CodePoint.ofChar '[' :: text) =
        some (value, rest)) :
    ∃ front, CodePoint.ofChar '[' :: text = front ++ rest ∧ IsValue front value := by
  have noQuote : CodePoint.ofChar '[' ≠ '"' := by decide
  rw [readValue?, if_neg noQuote, if_pos rfl] at read
  rcases exists_blank text with ⟨space, blank, shape⟩
  split at read
  · cases read
  · rename_i next after skipped
    rw [skipped] at shape
    split at read
    · rename_i closing
      cases read
      refine ⟨_, ?_, .array (.empty blank)⟩
      rw [shape, closing, List.append_assoc, List.append_assoc]
      rfl
    · rcases Option.bind_eq_some_iff.mp read with ⟨⟨items, last⟩, found, chosen⟩
      cases chosen
      rcases grammar.items found with ⟨inside, same, areItems, _⟩
      refine ⟨_, ?_, .array (areItems.prepend blank)⟩
      rw [shape, same]
      simp only [List.append_assoc]
      rfl

theorem object_succ
    {value : Json}
    (read :
      readValue? (fuel + 1) (CodePoint.ofChar '\x7b' :: text) =
        some (value, rest)) :
    ∃ front,
      CodePoint.ofChar '\x7b' :: text = front ++ rest ∧ IsValue front value := by
  have noQuote : CodePoint.ofChar '\x7b' ≠ '"' := by decide
  have noBracket : CodePoint.ofChar '\x7b' ≠ '[' := by decide
  have opening : (CodePoint.ofChar '\x7b').val = 0x7B := rfl
  rw [readValue?, if_neg noQuote, if_neg noBracket, if_pos opening] at read
  rcases exists_blank text with ⟨space, blank, shape⟩
  split at read
  · cases read
  · rename_i next after skipped
    rw [skipped] at shape
    split at read
    · rename_i closing
      have isBrace : next = brace := CodePoint.ext closing
      cases read
      refine ⟨_, ?_, .object (.empty blank)⟩
      rw [shape, isBrace, List.append_assoc, List.append_assoc]
      rfl
    · rcases Option.bind_eq_some_iff.mp read
        with ⟨⟨members, last⟩, found, chosen⟩
      cases chosen
      rcases grammar.members found with ⟨inside, same, areMembers, _⟩
      refine ⟨_, ?_, .object (areMembers.prepend blank)⟩
      rw [shape, same]
      simp only [List.append_assoc]
      rfl

theorem value_succ
    {value : Json}
    (read : readValue? (fuel + 1) text = some (value, rest)) :
    ∃ front, text = front ++ rest ∧ IsValue front value := by
  cases text with
  | nil => cases read
  | cons c following =>
      by_cases quote : c = '"'
      · subst quote
        rw [readValue?, if_pos rfl] at read
        rcases Option.bind_eq_some_iff.mp read
          with ⟨⟨shown, after⟩, found, chosen⟩
        cases chosen
        rcases spells_of_readString? found with ⟨body, rfl, spells⟩
        refine ⟨_, ?_, .string spells⟩
        rw [quotation, List.append_assoc, List.append_assoc]
        rfl
      by_cases bracket : c = '['
      · subst bracket
        exact grammar.array_succ read
      by_cases opening : c.val = 0x7B
      · have isBrace : c = CodePoint.ofChar '\x7b' := CodePoint.ext opening
        subst isBrace
        exact grammar.object_succ read
      exact isValue_of_plain quote bracket opening read

end ReadsGrammar

theorem readsGrammar (fuel : Nat) : ReadsGrammar fuel := by
  induction fuel with
  | zero => exact ⟨nofun, nofun, nofun⟩
  | succ fuel induction =>
      exact ⟨induction.value_succ, induction.items_succ,
        induction.members_succ⟩

/-! ## Whole texts -/

/-- A text is read as the value that it denotes. -/
theorem read?_eq_some_iff {text : Text} {value : Json} :
    read? text = some value ↔ Denotes text value := by
  constructor
  · intro read
    rcases Option.bind_eq_some_iff.mp read with ⟨⟨found, behind⟩, first, chosen⟩
    rcases (readsGrammar _).value first with ⟨front, same, isValue⟩
    rcases exists_blank text with ⟨before, blankBefore, shape⟩
    rcases exists_blank behind with ⟨after, blankAfter, shapeAfter⟩
    dsimp only at chosen
    split at chosen
    · rename_i nothing
      cases chosen
      rw [nothing, List.append_nil] at shapeAfter
      rw [shape, same, shapeAfter]
      exact .around blankBefore isValue blankAfter
    · cases chosen
  · intro denotes
    have nothing : Closes [] := ⟨nofun, rfl⟩
    rcases denotes.reads (2 * text.length + 2) [] nothing (by omega)
      with ⟨behind, read, next⟩
    rw [List.append_nil] at read
    rw [read?, read, Option.bind_eq_bind, Option.bind_some]
    exact if_pos next

/-- An object is read if the text is one, with its members as they are given. -/
theorem read?_eq_object_iff {text : Text} {members : Members} :
    read? text = some (.object members) ↔
      ∃ given, DenotesObject text given ∧ members = Members.ofList given :=
  read?_eq_some_iff.trans denotes_object_iff

end ClauseEditor.Json
