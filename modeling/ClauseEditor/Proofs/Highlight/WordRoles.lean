import ClauseEditor.Proofs.Highlight.Numerals

/-!
# Words have one colour

A unit gets the role of the last kind of token that takes it.  Kinds of tokens
take words whole, and so do strings and comments: all units of a word have the
same role.  Which one it is can be told from the word and the unit before it,
unless the word is in a literal or is the name in a declaration.
-/

namespace ClauseEditor.Highlight

open ClauseEditor.Scallop

/-! ## The last kind of token -/

section Kinds

variable {units : List CodeUnit} {position : Nat}

theorem getElem?_foldl_paint
    (role : Role)
    (spans : List Span)
    {roles : Roles}
    {old : Option Role}
    (stands : roles[position]? = some old) :
    (spans.foldl (paint role) roles)[position]? =
      some (if ∃ span ∈ spans, span.covers position = true then some role
        else old) := by
  induction spans generalizing roles old with
  | nil => simpa using stands
  | cons span spans induction =>
      have painted :
          (paint role roles span)[position]? =
            some (if span.covers position then some role else old) := by
        rw [getElem?_paint, stands, Option.map_some]
      rw [List.foldl_cons, induction painted]
      by_cases covers : span.covers position = true
      · simp [covers]
      · simp [covers]

/-- The last kind of token that takes a unit gives it its role. -/
theorem getElem?_foldl_paintRule
    (kinds : List (Role × Recogniser))
    {roles : Roles}
    {old : Option Role}
    (stands : roles[position]? = some old) :
    (kinds.foldl (paintRule units) roles)[position]? =
      some
        (((kinds.filter fun kind => Takes kind.2 units position).map
          (·.1)).getLast?.or old) := by
  induction kinds generalizing roles old with
  | nil => exact stands
  | cons kind kinds induction =>
      have painted :
          (paintRule units roles kind)[position]? =
            some (if Takes kind.2 units position then some kind.1 else old) :=
        getElem?_foldl_paint kind.1 (tokens kind.2 units) stands
      rw [List.foldl_cons, induction painted, List.filter_cons]
      by_cases takes : Takes kind.2 units position
      · rw [if_pos takes, if_pos (decide_eq_true takes), List.map_cons,
          getLast?_cons_or]
      · rw [if_neg takes, if_neg (by simpa using takes)]

theorem getElem?_tokenRoles_eq
    (wellFormed : Utf16.isWellFormed units = true)
    (inside : position < units.length) :
    (tokenRoles units)[position]? =
      some
        ((rules.filter fun kind => Takes kind.2 units position).map
          (·.1)).getLast? := by
  have plain :
      (units.map fun _ => (none : Option Role))[position]? = some none := by
    rw [List.getElem?_map, List.getElem?_eq_getElem inside, Option.map_some]
  simp only [tokenRoles]
  rw [if_pos wellFormed, getElem?_foldl_paintRule rules plain, Option.or_none]

end Kinds

/-- Literals give alike roles to positions that they cover alike. -/
theorem getElem?_paintLiterals_congr
    {literals : List Literal}
    {roles : Roles}
    {first second : Nat}
    (covers_iff :
      ∀ literal ∈ literals,
        literal.span.covers first = true ↔ literal.span.covers second = true)
    (same : roles[first]? = roles[second]?) :
    (paintLiterals literals roles)[first]? =
      (paintLiterals literals roles)[second]? := by
  induction literals generalizing roles with
  | nil => exact same
  | cons literal literals induction =>
      rw [paintLiterals_cons]
      apply induction
      · intro other member
        exact covers_iff other (List.mem_cons_of_mem literal member)
      · have alike :=
          Bool.eq_iff_iff.mpr (covers_iff literal List.mem_cons_self)
        rw [getElem?_paint, getElem?_paint, same, alike]

/-! ## Every kind of token keeps words whole -/

theorem keepsWords_of_mem_rules
    {rule : Role × Recogniser}
    (member : rule ∈ rules) :
    rule.2.KeepsWords := by
  simp only [rules, List.mem_cons, List.not_mem_nil, or_false] at member
  rcases member with
    rfl | rfl | rfl | rfl | rfl | rfl | rfl | rfl | rfl
  · exact keepsWords_oneOf (by decide)
  · exact keepsWords_wholeWord (by decide)
  · exact keepsWords_wholeWord (by decide)
  · exact keepsWords_attributeName
  · exact keepsWords_wholeWord (by decide)
  · exact keepsWords_wholeWord (by decide)
  · exact keepsWords_numeral
  · exact keepsWords_nameAfter _
  · exact keepsWords_nameAfter _

theorem length_paintLiterals (literals : List Literal) (roles : Roles) :
    (paintLiterals literals roles).length = roles.length := by
  induction literals generalizing roles with
  | nil => rfl
  | cons literal literals induction =>
      rw [paintLiterals_cons, induction, length_paint]

/-- Every unit of a line has a place for its role. -/
theorem length_roles_colourLine (inComment : Bool) (units : List CodeUnit) :
    (colourLine inComment units).roles.length = units.length := by
  rw [roles_colourLine, length_paintLiterals, length_tokenRoles]

section Words

variable
    {front word behind : List CodeUnit}
    (run : IsWordRun front word behind)
    (basic : Utf16.IsBasic (front ++ (word ++ behind)))
    {offset : Nat}
    (inside : offset < word.length)

theorem length_add_lt (inside : offset < word.length) :
    front.length + offset < (front ++ (word ++ behind)).length := by
  rw [List.length_append, List.length_append]
  omega

include run basic inside

/-- Literals aside, a word has one role. -/
theorem IsWordRun.getElem?_tokenRoles_add :
    (tokenRoles (front ++ (word ++ behind)))[front.length + offset]? =
      (tokenRoles (front ++ (word ++ behind)))[front.length]? := by
  have same (rule : Role × Recogniser) (member : rule ∈ rules) :
      decide
          (Takes rule.2 (front ++ (word ++ behind)) (front.length + offset)) =
        decide (Takes rule.2 (front ++ (word ++ behind)) front.length) :=
    decide_eq_decide.mpr (run.takes_iff (keepsWords_of_mem_rules member) inside)
  have start : front.length < (front ++ (word ++ behind)).length :=
    length_add_lt run.length_pos
  rw [getElem?_tokenRoles_eq basic.isWellFormed (length_add_lt inside),
    getElem?_tokenRoles_eq basic.isWellFormed start, List.filter_congr same]

/-- A literal takes a word whole or not at all. -/
theorem IsWordRun.covers_literal_iff
    {inComment : Bool}
    {literal : Literal}
    (member :
      literal ∈ (literals inComment (front ++ (word ++ behind))).found) :
    literal.span.covers (front.length + offset) = true ↔
      literal.span.covers front.length = true := by
  have framed := isFramed_of_mem_literals basic member
  exact
    run.covers_iff_of_isEdgeAt framed.1.isEdgeAt framed.2.isEdgeAt inside

/-- A word has one role. -/
theorem IsWordRun.getElem?_roles_add (inComment : Bool) :
    (colourLine inComment (front ++ (word ++ behind))).roles[
        front.length + offset]? =
      (colourLine inComment (front ++ (word ++ behind))).roles[
        front.length]? := by
  rw [roles_colourLine]
  apply getElem?_paintLiterals_congr
  · intro literal member
    exact run.covers_literal_iff basic inside member
  · exact run.getElem?_tokenRoles_add basic inside

end Words

/-! ## The role of a word -/

/-- The roles that a word and the unit before it can have by themselves. -/
def wordRoles
    (before : Option CodeUnit)
    (word : List CodeUnit) :
    List (Role × Bool) :=
  let among (words : List Text) : Bool := word ∈ words.map Utf16.encode
  let isNamed : Bool :=
    before = some (.ofChar '@') ∧ word.head?.any isDigit = false
  [(.keyword, among (declarations ++ keywords)),
    (.aggregator, among aggregators),
    (.attributeName, isNamed),
    (.type, among types),
    (.constant, among constants),
    (.number, isNumber word)]

/-- The last role that a word can have. -/
def wordRole? (before : Option CodeUnit) (word : List CodeUnit) : Option Role :=
  (((wordRoles before word).filter (·.2)).map (·.1)).getLast?

/-- The unit belongs to the name of a relation or a type in its declaration. -/
def IsDeclaredName (units : List CodeUnit) (position : Nat) : Prop :=
  Takes (nameAfter (relationDeclarations.map Utf16.encode)) units position ∨
    Takes (nameAfter [Utf16.encode typeDeclaration]) units position

instance (units : List CodeUnit) (position : Nat) :
    Decidable (IsDeclaredName units position) :=
  inferInstanceAs (Decidable (_ ∨ _))

section Role

variable
    {front word behind : List CodeUnit}
    (run : IsWordRun front word behind)

include run

/-- Which kinds of tokens take a word can be told from the word. -/
theorem IsWordRun.map_takes_rules
    (undeclared :
      ¬ IsDeclaredName (front ++ (word ++ behind)) front.length) :
    (rules.map fun rule =>
        (rule.1,
          decide (Takes rule.2 (front ++ (word ++ behind)) front.length))) =
      (.operator, false) ::
        (wordRoles front.getLast? word ++
          [(.relationName, false), (.typeName, false)]) := by
  rw [IsDeclaredName, not_or] at undeclared
  have listed
      (words : List Text)
      (areWords :
        ∀ word ∈ words.map Utf16.encode,
          word ≠ [] ∧ ∀ unit ∈ word, isWord unit = true) :
      decide
          (Takes (wholeWord (words.map Utf16.encode))
            (front ++ (word ++ behind)) front.length) =
        decide (word ∈ words.map Utf16.encode) :=
    decide_eq_decide.mpr (run.takes_wholeWord_iff areWords)
  have named :
      decide (Takes attributeName (front ++ (word ++ behind)) front.length) =
        decide
          (front.getLast? = some (.ofChar '@') ∧
            word.head?.any isDigit = false) :=
    decide_eq_decide.mpr run.takes_attributeName_iff
  have number :
      decide (Takes numeral (front ++ (word ++ behind)) front.length) =
        isNumber word :=
    Bool.eq_iff_iff.mpr (decide_eq_true_iff.trans run.takes_numeral_iff)
  simp only [rules, wordRoles, List.map_cons, List.map_nil, List.cons_append,
    List.nil_append]
  rw [decide_eq_false (run.not_takes_oneOf (by decide)),
    listed _ (by decide), listed _ (by decide), listed _ (by decide),
    listed _ (by decide), named, number, decide_eq_false undeclared.1,
    decide_eq_false undeclared.2]

/-- The kinds of tokens that take a word can be told from the word. -/
theorem IsWordRun.filter_rules
    (undeclared :
      ¬ IsDeclaredName (front ++ (word ++ behind)) front.length) :
    (rules.filter fun rule =>
        Takes rule.2 (front ++ (word ++ behind)) front.length).map (·.1) =
      ((wordRoles front.getLast? word).filter (·.2)).map (·.1) := by
  calc
    _ = (((rules.map fun rule =>
          (rule.1,
            decide
              (Takes rule.2 (front ++ (word ++ behind))
                front.length))).filter (·.2)).map (·.1)) := by
      rw [List.filter_map, List.map_map]
      rfl
    _ = _ := by
      rw [run.map_takes_rules undeclared]
      simp

/-- The role of a word that is neither in a literal nor a declared name. -/
theorem IsWordRun.getElem?_roles_of_outside
    (basic : Utf16.IsBasic (front ++ (word ++ behind)))
    {inComment : Bool}
    (outside :
      Outside (literals inComment (front ++ (word ++ behind))).found
        front.length)
    (undeclared :
      ¬ IsDeclaredName (front ++ (word ++ behind)) front.length) :
    (colourLine inComment (front ++ (word ++ behind))).roles[front.length]? =
      some (wordRole? front.getLast? word) := by
  have start : front.length < (front ++ (word ++ behind)).length :=
    length_add_lt run.length_pos
  rw [roles_colourLine, getElem?_paintLiterals_of_outside outside,
    getElem?_tokenRoles_eq basic.isWellFormed start,
    run.filter_rules undeclared, wordRole?]

end Role

/--
All units of a word have one role, and with it one colour and one set of flags.
If the word is in no string and no comment and is not the name in a
declaration, the role is the last of those that the word has by itself.
-/
theorem colourLine_words
    {front word behind : List CodeUnit}
    (run : IsWordRun front word behind)
    (basic : Utf16.IsBasic (front ++ (word ++ behind)))
    (inComment : Bool) :
    ∃ role,
      (∀ offset < word.length,
          (colourLine inComment (front ++ (word ++ behind))).roles[
              front.length + offset]? =
            some role) ∧
        (Outside (literals inComment (front ++ (word ++ behind))).found
            front.length →
          ¬ IsDeclaredName (front ++ (word ++ behind)) front.length →
            role = wordRole? front.getLast? word) := by
  have length :
      front.length <
        (colourLine inComment (front ++ (word ++ behind))).roles.length := by
    rw [length_roles_colourLine]
    exact length_add_lt run.length_pos
  obtain ⟨role, stands⟩ :
      ∃ role,
        (colourLine inComment (front ++ (word ++ behind))).roles[
            front.length]? =
          some role :=
    ⟨_, List.getElem?_eq_getElem length⟩
  refine ⟨role, fun offset inside => ?_, fun outside undeclared => ?_⟩
  · rw [run.getElem?_roles_add basic inside, stands]
  · rw [run.getElem?_roles_of_outside basic outside undeclared] at stands
    exact (Option.some.inj stands).symm

/--
A reserved word behind an at sign is an attribute, between a comment from the
line above and the name of a type.
-/
theorem colourLine_words_sample :
    ∃ front word behind,
      front = Utf16.encode (Text.ofString "in*/ rel p(0x1F) @") ∧
        word = Utf16.encode (Text.ofString "type") ∧
        behind = Utf16.encode (Text.ofString " type1 \"in\"") ∧
        IsWordRun front word behind ∧
        Utf16.IsBasic (front ++ (word ++ behind)) ∧
        Outside (literals true (front ++ (word ++ behind))).found
          front.length ∧
        ¬ IsDeclaredName (front ++ (word ++ behind)) front.length ∧
        ∀ offset < word.length,
          (colourLine true (front ++ (word ++ behind))).roles[
              front.length + offset]? =
            some (some .attributeName) := by
  let front := Utf16.encode (Text.ofString "in*/ rel p(0x1F) @")
  let word := Utf16.encode (Text.ofString "type")
  let behind := Utf16.encode (Text.ofString " type1 \"in\"")
  have run : IsWordRun front word behind := by decide +kernel
  have basic : Utf16.IsBasic (front ++ (word ++ behind)) := by decide +kernel
  have checked :
      ∀ literal ∈ (literals true (front ++ (word ++ behind))).found,
        literal.span.covers front.length = false := by
    decide +kernel
  have outside :
      Outside (literals true (front ++ (word ++ behind))).found
        front.length := by
    rintro kind ⟨literal, member, _, covers⟩
    rw [checked literal member] at covers
    cases covers
  have undeclared :
      ¬ IsDeclaredName (front ++ (word ++ behind)) front.length := by
    decide +kernel
  have expected : wordRole? front.getLast? word = some .attributeName := by
    decide +kernel
  rcases colourLine_words run basic true with ⟨role, same, known⟩
  rw [known outside undeclared, expected] at same
  exact ⟨front, word, behind, rfl, rfl, rfl, run, basic, outside, undeclared,
    same⟩

end ClauseEditor.Highlight
