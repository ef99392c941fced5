import ClauseEditor.Proofs.Highlight.Words

/-!
# Tokens and words

Every recogniser of the highlighter keeps words whole.  Operators take no word.
A list of words takes the words in it, an attribute takes the word that follows
an at sign, and numerals take the words that are numbers by themselves: the
digits in front of a point and those behind it are two words, each of them a
number.
-/

namespace ClauseEditor.Highlight

open ClauseEditor.Scallop

/-! ## Reading words -/

/-- A class of characters of words. -/
def IsPartOfWords (isMember : CodeUnit → Bool) : Prop :=
  ∀ unit : CodeUnit, isMember unit = true → isWord unit = true

theorem isPartOfWords_isWord : IsPartOfWords isWord :=
  fun _ member => member

theorem isPartOfWords_isDigit : IsPartOfWords isDigit := by
  intro unit digit
  rw [isWord, digit, Bool.or_true]

theorem isPartOfWords_isHexDigit : IsPartOfWords isHexDigit := by
  intro unit digit
  simp only [isHexDigit, isDigit, isWord, isNameStart, isLetter,
    Bool.or_eq_true, Bool.and_eq_true, decide_eq_true_eq] at digit ⊢
  omega

theorem isPartOfWords_isBinaryDigit : IsPartOfWords isBinaryDigit := by
  intro unit digit
  simp only [isBinaryDigit, isDigit, isWord, isNameStart, isLetter,
    Bool.or_eq_true, Bool.and_eq_true, decide_eq_true_eq] at digit ⊢
  omega

theorem isWord_of_isBlank {unit : CodeUnit} (blank : isBlank unit = true) :
    isWord unit = false := by
  simp only [isBlank, isDigit, isWord, isNameStart, isLetter, Bool.or_eq_true,
    Bool.or_eq_false_iff, Bool.and_eq_true, Bool.and_eq_false_iff,
    decide_eq_true_eq, decide_eq_false_iff_not] at blank ⊢
  omega

theorem wordEnds_cons (unit : CodeUnit) (rest : List CodeUnit) :
    wordEnds (unit :: rest) = !isWord unit := rfl

/-- Reading characters of words stops where a word ends. -/
theorem takeWhile_of_wordEnds
    {isMember : CodeUnit → Bool}
    (part : IsPartOfWords isMember)
    {members rest : List CodeUnit}
    (all : ∀ unit ∈ members, isMember unit = true)
    (ends : wordEnds rest = true) :
    (members ++ rest).takeWhile isMember = members := by
  rw [List.takeWhile_append_of_pos all]
  cases rest with
  | nil => exact List.append_nil _
  | cons unit rest =>
      have outside : ¬ isMember unit = true := by
        intro member
        rw [wordEnds_cons, part unit member] at ends
        cases ends
      rw [List.takeWhile_cons_of_neg outside, List.append_nil]

/-- A word that is read to its end ends. -/
theorem wordEnds_dropWhile (units : List CodeUnit) :
    wordEnds (units.dropWhile isWord) = true := by
  induction units with
  | nil => rfl
  | cons unit units induction =>
      rw [List.dropWhile_cons]
      split
      · exact induction
      · rename_i other
        rw [wordEnds_cons, Bool.eq_false_iff.mpr other]
        rfl

theorem exists_append_of_isPrefixOf
    {word units : List CodeUnit}
    (starts : word.isPrefixOf units = true) :
    ∃ rest, word ++ rest = units :=
  List.isPrefixOf_iff_prefix.mp starts

theorem getLast?_append_of_ne_nil
    (left : List CodeUnit)
    {right : List CodeUnit}
    (ne_nil : right ≠ []) :
    (left ++ right).getLast? = some (right.getLast ne_nil) := by
  rw [List.getLast?_append, List.getLast?_eq_some_getLast ne_nil]
  rfl

/-- The unit that stands where a stretch covers a line is in the stretch. -/
theorem mem_of_covers
    {left stretch rest front behind : List CodeUnit}
    {unit : CodeUnit}
    (same : left ++ (stretch ++ rest) = front ++ unit :: behind)
    (lower : left.length ≤ front.length)
    (upper : front.length < left.length + stretch.length) :
    unit ∈ stretch := by
  obtain ⟨offset, start⟩ := Nat.exists_eq_add_of_le lower
  have inside : offset < stretch.length := by omega
  have here := congrArg (·[front.length]?) same
  rw [List.getElem?_append_right (Nat.le_refl front.length), Nat.sub_self,
    List.getElem?_cons_zero, start,
    List.getElem?_append_right (Nat.le_add_right _ _),
    Nat.add_sub_cancel_left, List.getElem?_append_left inside] at here
  exact List.mem_of_getElem? here

/-- A name is a word that starts with a letter or an underscore. -/
theorem exists_of_nameLength
    {units : List CodeUnit}
    (present : nameLength units ≠ 0) :
    ∃ name rest,
      name ++ rest = units ∧ nameLength units = name.length ∧ name ≠ [] ∧
        name.head?.any isNameStart = true ∧
        (∀ unit ∈ name, isWord unit = true) ∧ wordEnds rest = true := by
  rw [nameLength] at present ⊢
  split at present
  · rename_i starts
    have whole : units.takeWhile isWord ++ units.dropWhile isWord = units :=
      List.takeWhile_append_dropWhile
    have ne_nil : units.takeWhile isWord ≠ [] :=
      fun none => present (congrArg List.length none)
    have first : (units.takeWhile isWord).head? = units.head? := by
      nth_rewrite 2 [← whole]
      rw [List.head?_append, List.head?_eq_some_head ne_nil, Option.some_or]
    exact
      ⟨_, _, whole, if_pos starts, ne_nil, first ▸ starts,
        List.all_eq_true.mp List.all_takeWhile, wordEnds_dropWhile units⟩
  · exact absurd rfl present

/-! ## What tokens cover -/

/-- A token of a kind covers the position. -/
def Takes
    (recognise : Recogniser)
    (units : List CodeUnit)
    (position : Nat) :
    Prop :=
  ∃ span ∈ tokens recognise units, span.covers position = true

instance (recognise : Recogniser) (units : List CodeUnit) (position : Nat) :
    Decidable (Takes recognise units position) :=
  inferInstanceAs
    (Decidable (∃ span ∈ tokens recognise units, span.covers position = true))

theorem Takes.exists_recognises
    {recognise : Recogniser}
    {units : List CodeUnit}
    {position : Nat}
    (takes : Takes recognise units position) :
    ∃ left right token,
      left ++ right = units ∧ Recognises recognise left right token ∧
        left.length + token.offset ≤ position ∧
        position < left.length + token.offset + token.length := by
  rcases takes with ⟨span, member, covers⟩
  rcases exists_recognises_of_mem_tokens member with
    ⟨left, right, token, whole, recognises, rfl⟩
  rw [Span.covers_iff] at covers
  exact ⟨left, right, token, whole, recognises, covers⟩

/-- A word is taken whole or not at all. -/
theorem IsWordRun.takes_iff
    {front word behind : List CodeUnit}
    (run : IsWordRun front word behind)
    {recognise : Recogniser}
    (keeps : recognise.KeepsWords)
    {offset : Nat}
    (inside : offset < word.length) :
    Takes recognise (front ++ (word ++ behind)) (front.length + offset) ↔
      Takes recognise (front ++ (word ++ behind)) front.length := by
  have same (span : Span)
      (member : span ∈ tokens recognise (front ++ (word ++ behind))) :=
    run.covers_iff_of_isEdgeAt (keeps.isEdgeAt member).1
      (keeps.isEdgeAt member).2 inside
  constructor
  · rintro ⟨span, member, covers⟩
    exact ⟨span, member, (same span member).mp covers⟩
  · rintro ⟨span, member, covers⟩
    exact ⟨span, member, (same span member).mpr covers⟩

/-- Every token of the kind has some units and is shown whole. -/
def Recogniser.ShowsWhole (recognise : Recogniser) : Prop :=
  ∀ {before : Option CodeUnit} {units : List CodeUnit} {token : Token},
    recognise before units = some token →
      ∃ length, token = .whole length ∧ 0 < length

theorem covers_whole_iff
    {left : List CodeUnit}
    {length position : Nat} :
    ((Token.whole length).spanBehind left).covers position = true ↔
      left.length ≤ position ∧ position < left.length + length :=
  Span.covers_iff

/-- Where a token is recognised, that token or an earlier one is shown. -/
theorem Recognises.takes
    {recognise : Recogniser}
    (shows : recognise.ShowsWhole)
    {left right : List CodeUnit}
    {token : Token}
    (recognises : Recognises recognise left right token) :
    Takes recognise (left ++ right) left.length := by
  rcases recognises.mem_tokens_or with
    member | ⟨first, rest, earlier, _, known, lower, upper, member⟩
  · rcases shows recognises.found with ⟨length, rfl, positive⟩
    refine ⟨_, member, covers_whole_iff.mpr ⟨Nat.le_refl _, ?_⟩⟩
    exact Nat.lt_add_of_pos_right positive
  · rcases shows known.found with ⟨length, rfl, _⟩
    exact ⟨_, member, covers_whole_iff.mpr ⟨Nat.le_of_lt lower, upper⟩⟩

/-! ## Operators -/

section Operators

variable
    {texts : List (List CodeUnit)}
    (plain :
      ∀ text ∈ texts, text ≠ [] ∧ ∀ unit ∈ text, isWord unit = false)

include plain

theorem exists_of_recognises_oneOf
    {left right : List CodeUnit}
    {token : Token}
    (recognises : Recognises (oneOf texts) left right token) :
    ∃ text rest,
      text ++ rest = right ∧ token = .whole text.length ∧ text ≠ [] ∧
        ∀ unit ∈ text, isWord unit = false := by
  rcases Option.map_eq_some_iff.mp recognises.found with ⟨text, stands, rfl⟩
  have starts := List.find?_some stands
  rcases exists_append_of_isPrefixOf starts with ⟨rest, whole⟩
  rcases plain text (List.mem_of_find?_eq_some stands) with ⟨ne_nil, others⟩
  exact ⟨text, rest, whole, rfl, ne_nil, others⟩

theorem keepsWords_oneOf : (oneOf texts).KeepsWords := by
  intro left right token recognises
  rcases exists_of_recognises_oneOf plain recognises with
    ⟨text, rest, rfl, rfl, ne_nil, others⟩
  constructor
  · right
    rcases List.exists_cons_of_ne_nil ne_nil with ⟨first, more, rfl⟩
    have other := others first List.mem_cons_self
    simp [Token.whole, wordEnds, other]
  · left
    rw [Token.whole, Nat.zero_add, List.take_left,
      getLast?_append_of_ne_nil left ne_nil, Option.any_some]
    exact others _ (List.getLast_mem ne_nil)

/-- Characters that belong to no word take no word. -/
theorem IsWordRun.not_takes_oneOf
    {front word behind : List CodeUnit}
    (run : IsWordRun front word behind) :
    ¬ Takes (oneOf texts) (front ++ (word ++ behind)) front.length := by
  intro takes
  rcases takes.exists_recognises with
    ⟨left, right, token, whole, recognises, lower, upper⟩
  rcases exists_of_recognises_oneOf plain recognises with
    ⟨text, rest, rfl, rfl, _, others⟩
  rcases List.exists_cons_of_ne_nil run.ne_nil with ⟨first, more, rfl⟩
  have differs := others first (mem_of_covers whole lower upper)
  rw [run.members first List.mem_cons_self] at differs
  cases differs

end Operators

/-! ## Listed words -/

section Listed

variable
    {words : List (List CodeUnit)}
    (areWords :
      ∀ word ∈ words, word ≠ [] ∧ ∀ unit ∈ word, isWord unit = true)

include areWords

theorem exists_of_recognises_wholeWord
    {left right : List CodeUnit}
    {token : Token}
    (recognises : Recognises (wholeWord words) left right token) :
    ∃ word rest,
      word ++ rest = right ∧ token = .whole word.length ∧ word ∈ words ∧
        IsWordRun left word rest := by
  have found := recognises.found
  rw [wholeWord] at found
  split at found
  · cases found
  · rename_i starts
    rcases Option.map_eq_some_iff.mp found with ⟨word, stands, rfl⟩
    have matched := List.find?_some stands
    rw [Bool.and_eq_true] at matched
    rcases exists_append_of_isPrefixOf matched.1 with ⟨rest, rfl⟩
    rw [List.drop_left] at matched
    have listed := List.mem_of_find?_eq_some stands
    exact
      ⟨word, rest, rfl, rfl, listed, (areWords word listed).1,
        (areWords word listed).2, Bool.eq_false_iff.mpr starts, matched.2⟩

theorem keepsWords_wholeWord : (wholeWord words).KeepsWords := by
  intro left right token recognises
  rcases exists_of_recognises_wholeWord areWords recognises with
    ⟨word, rest, rfl, rfl, _, run⟩
  have start := run.isEdge_start
  have stop := run.isEdge_stop
  rw [Token.whole, Nat.zero_add, List.take_zero, List.drop_zero,
    List.append_nil, List.take_left, List.drop_left]
  exact ⟨start, stop⟩

theorem showsWhole_wholeWord : (wholeWord words).ShowsWhole := by
  intro before units token found
  rw [wholeWord] at found
  split at found
  · cases found
  · rcases Option.map_eq_some_iff.mp found with ⟨word, stands, rfl⟩
    have listed := List.mem_of_find?_eq_some stands
    exact
      ⟨word.length, rfl, List.length_pos_iff.mpr (areWords word listed).1⟩

/-- Exactly the listed words are taken. -/
theorem IsWordRun.takes_wholeWord_iff
    {front word behind : List CodeUnit}
    (run : IsWordRun front word behind) :
    Takes (wholeWord words) (front ++ (word ++ behind)) front.length ↔
      word ∈ words := by
  constructor
  · intro takes
    rcases takes.exists_recognises with
      ⟨left, right, token, whole, recognises, lower, upper⟩
    rcases exists_of_recognises_wholeWord areWords recognises with
      ⟨other, rest, rfl, rfl, listed, otherRun⟩
    obtain ⟨_, rfl, _⟩ := run.eq_of_overlap otherRun whole lower upper
    exact listed
  · intro listed
    have matched :
        (word.isPrefixOf (word ++ behind) &&
            wordEnds ((word ++ behind).drop word.length)) =
          true := by
      rw [List.drop_left, run.ends, Bool.and_true, List.isPrefixOf_iff_prefix]
      exact List.prefix_append _ _
    have stands :
        (words.find? fun word' =>
          word'.isPrefixOf (word ++ behind) &&
            wordEnds ((word ++ behind).drop word'.length)).isSome =
          true :=
      List.find?_isSome.mpr ⟨word, listed, matched⟩
    rcases Option.isSome_iff_exists.mp stands with ⟨found, stands⟩
    have recognises :
        Recognises (wholeWord words) front (word ++ behind)
          (.whole found.length) := by
      refine ⟨List.append_ne_nil_of_left_ne_nil run.ne_nil _, ?_⟩
      rw [wholeWord, if_neg (Bool.eq_false_iff.mp run.starts), stands]
      rfl
    exact recognises.takes (showsWhole_wholeWord areWords)

end Listed

/-! ## Attributes -/

theorem exists_of_recognises_attributeName
    {left right : List CodeUnit}
    {token : Token}
    (recognises : Recognises attributeName left right token) :
    ∃ name rest,
      .ofChar '@' :: (name ++ rest) = right ∧
        token = .whole (1 + name.length) ∧
        name.head?.any isNameStart = true ∧
        IsWordRun (left ++ [.ofChar '@']) name rest := by
  have found := recognises.found
  rw [attributeName] at found
  split at found
  · rename_i present
    cases found
    rcases List.head?_eq_some_iff.mp present.1 with ⟨units, rfl⟩
    rcases exists_of_nameLength present.2 with
      ⟨name, rest, rfl, length, ne_nil, starts, members, ends⟩
    rw [length]
    have edge :
        (left ++ [CodeUnit.ofChar '@']).getLast?.any isWord = false := by
      rw [List.getLast?_concat]
      rfl
    exact ⟨name, rest, rfl, rfl, starts, ne_nil, members, edge, ends⟩
  · cases found

theorem showsWhole_attributeName : attributeName.ShowsWhole := by
  intro before units token found
  rw [attributeName] at found
  split at found
  · cases found
    exact ⟨_, rfl, Nat.lt_add_right _ Nat.one_pos⟩
  · cases found

theorem keepsWords_attributeName : attributeName.KeepsWords := by
  intro left right token recognises
  rcases exists_of_recognises_attributeName recognises with
    ⟨name, rest, rfl, rfl, _, run⟩
  have stop := run.isEdge_stop
  constructor
  · exact .inr rfl
  · rw [Token.whole, Nat.zero_add, Nat.add_comm, List.take_succ_cons,
      List.drop_succ_cons, List.take_left, List.drop_left,
      ← List.singleton_append, ← List.append_assoc]
    exact stop

theorem IsWordRun.isNameStart_iff
    {front word behind : List CodeUnit}
    (run : IsWordRun front word behind) :
    word.head?.any isNameStart = true ↔ word.head?.any isDigit = false := by
  rcases List.exists_cons_of_ne_nil run.ne_nil with ⟨first, others, rfl⟩
  have member := run.members first List.mem_cons_self
  simp only [isWord, isNameStart, isLetter, isDigit, List.head?_cons,
    Option.any_some, Bool.or_eq_true, Bool.and_eq_true,
    Bool.and_eq_false_iff, decide_eq_true_eq, decide_eq_false_iff_not]
    at member ⊢
  omega

/-- Exactly the names behind an at sign are taken. -/
theorem IsWordRun.takes_attributeName_iff
    {front word behind : List CodeUnit}
    (run : IsWordRun front word behind) :
    Takes attributeName (front ++ (word ++ behind)) front.length ↔
      front.getLast? = some (.ofChar '@') ∧
        word.head?.any isDigit = false := by
  rw [← run.isNameStart_iff]
  constructor
  · intro takes
    rcases takes.exists_recognises with
      ⟨left, right, token, whole, recognises, lower, upper⟩
    rcases exists_of_recognises_attributeName recognises with
      ⟨name, rest, rfl, rfl, starts, nameRun⟩
    -- The at sign itself belongs to no word.
    have further : left.length ≠ front.length := by
      intro same
      obtain ⟨_, ahead⟩ := List.append_inj whole same
      rcases List.exists_cons_of_ne_nil run.ne_nil with ⟨first, more, rfl⟩
      have isWord := run.members first List.mem_cons_self
      rw [← (List.cons.inj ahead).1] at isWord
      cases isWord
    rw [← List.singleton_append, ← List.append_assoc] at whole
    simp only [Token.whole, Nat.add_zero] at lower upper
    obtain ⟨rfl, rfl, _⟩ :=
      run.eq_of_overlap nameRun whole
        (by rw [List.length_append, List.length_singleton]; omega)
        (by rw [List.length_append, List.length_singleton]; omega)
    exact ⟨List.getLast?_concat, starts⟩
  · rintro ⟨mark, starts⟩
    obtain ⟨left, rfl⟩ := List.getLast?_eq_some_iff.mp mark
    have named : nameLength (word ++ behind) = word.length := by
      rw [nameLength, List.head?_append, List.head?_eq_some_head run.ne_nil,
        Option.some_or, ← List.head?_eq_some_head, if_pos starts,
        takeWhile_of_wordEnds isPartOfWords_isWord run.members run.ends]
    have recognises :
        Recognises attributeName left (.ofChar '@' :: (word ++ behind))
          (.whole (1 + word.length)) := by
      refine ⟨List.cons_ne_nil _ _, ?_⟩
      rw [attributeName, List.drop_one, List.tail_cons, named,
        if_pos ⟨rfl, Nat.pos_iff_ne_zero.mp run.length_pos⟩]
    rcases recognises.takes showsWhole_attributeName with
      ⟨span, member, covers⟩
    rcases exists_recognises_of_mem_tokens member with
      ⟨first, rest, token, whole, known, rfl⟩
    rcases exists_of_recognises_attributeName known with
      ⟨name, more, rfl, rfl, _, nameRun⟩
    rw [List.append_assoc, List.singleton_append]
    refine ⟨_, member, ?_⟩
    rw [covers_whole_iff] at covers
    rw [covers_whole_iff, List.length_append, List.length_singleton]
    have length := nameRun.length_pos
    -- The at sign cannot stand in the name of another attribute.
    have same : first.length = left.length := by
      by_contra other
      rw [← List.singleton_append, ← List.append_assoc] at whole
      have inside : .ofChar '@' ∈ name :=
        mem_of_covers whole
          (by rw [List.length_append, List.length_singleton]; omega)
          (by rw [List.length_append, List.length_singleton]; omega)
      cases nameRun.members _ inside
    omega

/-! ## Declared names -/

theorem exists_of_nameBehind?
    {units word : List CodeUnit}
    {token : Token}
    (found : nameBehind? units word = some token) :
    ∃ gap name rest,
      word ++ (gap ++ (name ++ rest)) = units ∧ gap ≠ [] ∧
        (∀ unit ∈ gap, isBlank unit = true) ∧ wordEnds rest = true ∧
        token.offset = word.length + gap.length ∧
        token.length = name.length := by
  simp only [nameBehind?] at found
  split at found
  · rename_i present
    rcases present with ⟨starts, gapped, named⟩
    cases found
    rcases exists_append_of_isPrefixOf starts with ⟨behind, rfl⟩
    rw [List.drop_left] at gapped named ⊢
    have whole :
        behind.takeWhile isBlank ++ behind.dropWhile isBlank = behind :=
      List.takeWhile_append_dropWhile
    have blanks : ∀ unit ∈ behind.takeWhile isBlank, isBlank unit = true :=
      List.all_eq_true.mp List.all_takeWhile
    generalize behind.takeWhile isBlank = gap at *
    generalize behind.dropWhile isBlank = rest at whole
    subst whole
    rw [List.drop_left] at named ⊢
    rcases exists_of_nameLength named with
      ⟨name, rest, rfl, length, _, _, _, ends⟩
    have ne_nil : gap ≠ [] := fun none => gapped (congrArg List.length none)
    exact ⟨gap, name, rest, rfl, ne_nil, blanks, ends, rfl, length⟩
  · cases found

theorem keepsWords_nameAfter (words : List (List CodeUnit)) :
    (nameAfter words).KeepsWords := by
  intro left right token recognises
  have found := recognises.found
  rw [nameAfter_eq] at found
  split at found
  · cases found
  · rcases List.exists_of_findSome?_eq_some found with ⟨word, _, behind⟩
    rcases exists_of_nameBehind? behind with
      ⟨gap, name, rest, rfl, ne_nil, blanks, ends, offset, length⟩
    have front :
        (word ++ (gap ++ (name ++ rest))).take (word.length + gap.length) =
          word ++ gap := by
      rw [List.take_length_add_append, List.take_left]
    have stop :
        (word ++ (gap ++ (name ++ rest))).drop
            (word.length + gap.length + name.length) =
          rest := by
      rw [Nat.add_assoc, List.drop_length_add_append,
        List.drop_length_add_append, List.drop_left]
    rw [offset, length, front, stop]
    constructor
    · -- In front of the name is a blank.
      left
      rw [← List.append_assoc, getLast?_append_of_ne_nil _ ne_nil,
        Option.any_some]
      exact isWord_of_isBlank (blanks _ (List.getLast_mem ne_nil))
    · exact .inr ends

end ClauseEditor.Highlight
