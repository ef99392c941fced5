import ClauseEditor.Proofs.Scallop.Lexemes

/-!
# The lexeme at a position

The lexemes of a line lie side by side, so every position of the line belongs
to one of them.  A line comment takes the rest of its line, and so do a string
and a block comment that are not closed; hence such a lexeme is the last one.
-/

namespace ClauseEditor.Scallop

namespace Lexeme

/-- A lexeme that takes the rest of its line. -/
def reachesEnd : Lexeme → Bool
  | code _ => false
  | string _ closed => !closed
  | lineComment _ => true
  | blockComment _ closed => !closed

/-- A string begins with a quote, and ends with another one if it is closed. -/
def HasQuotes : Lexeme → Prop
  | string text true => ∃ body, text = quote :: (body ++ [quote])
  | string text false => ∃ body, text = quote :: body
  | _ => True

end Lexeme

/-- The lexeme to which a position belongs, and the offset in it. -/
def lexemeAt? : List Lexeme → Nat → Option (Lexeme × Nat)
  | [], _ => none
  | lexeme :: rest, position =>
    if position < lexeme.text.length then some (lexeme, position)
    else lexemeAt? rest (position - lexeme.text.length)

theorem lexemeAt?_cons_of_lt
    {lexeme : Lexeme}
    {position : Nat}
    (inside : position < lexeme.text.length)
    (rest : List Lexeme) :
    lexemeAt? (lexeme :: rest) position = some (lexeme, position) :=
  if_pos inside

theorem lexemeAt?_cons_of_le
    {lexeme : Lexeme}
    {position : Nat}
    (behind : lexeme.text.length ≤ position)
    (rest : List Lexeme) :
    lexemeAt? (lexeme :: rest) position =
      lexemeAt? rest (position - lexeme.text.length) :=
  if_neg (Nat.not_lt.mpr behind)

/-- A character of the line is a character of the lexeme that stands there. -/
theorem getElem?_flatMap_text (lexemes : List Lexeme) (position : Nat) :
    (lexemes.flatMap Lexeme.text)[position]? =
      (lexemeAt? lexemes position).bind fun found =>
        found.1.text[found.2]? := by
  induction lexemes generalizing position with
  | nil => rfl
  | cons lexeme rest induction =>
      rw [List.flatMap_cons]
      rcases Nat.lt_or_ge position lexeme.text.length with inside | behind
      · rw [lexemeAt?_cons_of_lt inside, List.getElem?_append_left inside]
        rfl
      · rw [lexemeAt?_cons_of_le behind, List.getElem?_append_right behind,
          induction]

theorem exists_lexemeAt?
    {lexemes : List Lexeme}
    {position : Nat}
    (inside : position < (lexemes.flatMap Lexeme.text).length) :
    ∃ found, lexemeAt? lexemes position = some found := by
  have character := getElem?_flatMap_text lexemes position
  rw [List.getElem?_eq_getElem inside] at character
  rcases Option.bind_eq_some_iff.mp character.symm with ⟨found, stands, _⟩
  exact ⟨found, stands⟩

theorem mem_of_lexemeAt?
    {lexemes : List Lexeme}
    {position : Nat}
    {found : Lexeme × Nat}
    (stands : lexemeAt? lexemes position = some found) :
    found.1 ∈ lexemes ∧ found.2 < found.1.text.length := by
  induction lexemes generalizing position with
  | nil => cases stands
  | cons lexeme rest induction =>
      rcases Nat.lt_or_ge position lexeme.text.length with inside | behind
      · rw [lexemeAt?_cons_of_lt inside] at stands
        cases stands
        exact ⟨List.mem_cons_self, inside⟩
      · rw [lexemeAt?_cons_of_le behind] at stands
        rcases induction stands with ⟨member, within⟩
        exact ⟨List.mem_cons_of_mem lexeme member, within⟩

/-! ## Where lexemes can stand -/

/-- Of lexemes in this order, only the last may take the rest of the line. -/
def Fit (lexemes : List Lexeme) : Prop :=
  lexemes.Pairwise fun lexeme _ => lexeme.reachesEnd = false

theorem fit_cons
    {lexeme : Lexeme}
    {rest : List Lexeme}
    (ends : lexeme.reachesEnd = false)
    (fit : Fit rest) :
    Fit (lexeme :: rest) :=
  List.pairwise_cons.mpr ⟨fun _ _ => ends, fit⟩

theorem fit_singleton (lexeme : Lexeme) : Fit [lexeme] :=
  List.pairwise_singleton _ lexeme

theorem Fit.eq_nil
    {lexeme : Lexeme}
    {rest : List Lexeme}
    (fit : Fit (lexeme :: rest))
    (ends : lexeme.reachesEnd = true) :
    rest = [] := by
  apply List.eq_nil_iff_forall_not_mem.mpr
  intro other member
  have goesOn := (List.pairwise_cons.mp fit).1 other member
  rw [ends] at goesOn
  cases goesOn

/-- A lexeme that takes the rest of the line is the last one. -/
theorem Fit.last
    {lexemes : List Lexeme}
    (fit : Fit lexemes)
    {position : Nat}
    {found : Lexeme × Nat}
    (stands : lexemeAt? lexemes position = some found)
    (ends : found.1.reachesEnd = true) :
    lexemes.getLast? = some found.1 ∧
      position + found.1.text.length =
        (lexemes.flatMap Lexeme.text).length + found.2 := by
  induction lexemes generalizing position with
  | nil => cases stands
  | cons lexeme rest induction =>
      rcases Nat.lt_or_ge position lexeme.text.length with inside | behind
      · rw [lexemeAt?_cons_of_lt inside] at stands
        cases stands
        cases fit.eq_nil ends
        simp [Nat.add_comm]
      · rw [lexemeAt?_cons_of_le behind] at stands
        rcases induction (List.pairwise_cons.mp fit).2 stands
          with ⟨last, position_eq⟩
        refine ⟨?_, ?_⟩
        · rw [List.getLast?_cons, last]
          rfl
        · rw [List.flatMap_cons, List.length_append]
          omega

theorem fit_codeLexemes (line : Text) : Fit (codeLexemes line) := by
  fun_induction codeLexemes line with
  | case1 => exact List.Pairwise.nil
  | case2 => exact fit_singleton _
  | case3 => exact fit_singleton _
  | case4 c rest _ _ close _ induction => exact fit_cons rfl induction
  | case5 => exact fit_singleton _
  | case6 rest close _ _ _ induction => exact fit_cons rfl induction
  | case7 c rest _ _ _ induction => exact fit_cons rfl induction

theorem fit_lexemes (inComment : Bool) (line : Text) :
    Fit (lexemes inComment line) := by
  rw [lexemes]
  split
  · split
    · exact fit_singleton _
    · exact fit_cons rfl (fit_codeLexemes _)
  · exact fit_codeLexemes line

theorem hasQuotes_of_mem_codeLexemes
    {line : Text}
    {lexeme : Lexeme}
    (member : lexeme ∈ codeLexemes line) :
    lexeme.HasQuotes := by
  fun_induction codeLexemes line with
  | case1 => cases member
  | case2 =>
      cases List.mem_singleton.mp member
      trivial
  | case3 =>
      cases List.mem_singleton.mp member
      trivial
  | case4 c rest _ _ close _ induction =>
      rcases List.mem_cons.mp member with rfl | behind
      · trivial
      · exact induction behind
  | case5 rest =>
      cases List.mem_singleton.mp member
      exact ⟨rest, rfl⟩
  | case6 rest close found _ _ induction =>
      rcases List.mem_cons.mp member with rfl | behind
      · refine ⟨rest.take close, ?_⟩
        rw [List.take_succ_cons, List.take_add_one,
          getElem?_of_closingQuote? found]
        rfl
      · exact induction behind
  | case7 c rest _ _ _ induction =>
      rcases List.mem_cons.mp member with rfl | behind
      · trivial
      · exact induction behind

theorem hasQuotes_of_mem_lexemes
    {inComment : Bool}
    {line : Text}
    {lexeme : Lexeme}
    (member : lexeme ∈ lexemes inComment line) :
    lexeme.HasQuotes := by
  rw [lexemes] at member
  split at member
  · split at member
    · cases List.mem_singleton.mp member
      trivial
    · rcases List.mem_cons.mp member with rfl | behind
      · trivial
      · exact hasQuotes_of_mem_codeLexemes behind
  · exact hasQuotes_of_mem_codeLexemes member

end ClauseEditor.Scallop
