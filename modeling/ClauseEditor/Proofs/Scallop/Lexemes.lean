import Mathlib.Data.List.Induction
import ClauseEditor.Scallop.Vocabulary

/-!
# Lexemes

A line is a sequence of lexemes: comments, strings and single characters of
code.  Each lexeme is found by its opening mark and a search for the mark that
closes it.  A block comment reaches to the first closing mark behind its
opening mark; one that the line does not close goes on in the next line, which
then begins with the rest of it.  A string reaches to the first quote that no
backslash escapes, or to the end of the line.  A line comment reaches to the
end of the line.

Nothing here looks at one character after another: this is the reading of the
language that scanners are compared with.
-/

namespace ClauseEditor

namespace Text

theorem add_length_le_of_indexOf?
    {text part : Text}
    {position : Nat}
    (found : text.indexOf? part = some position) :
    position + part.length ≤ text.length := by
  induction text generalizing position with
  | nil =>
      rw [indexOf?] at found
      split at found
      · rename_i empty
        cases found
        simp [empty]
      · cases found
  | cons c rest induction =>
      rw [indexOf?] at found
      split at found
      · rename_i starts
        have inside := (List.isPrefixOf_iff_prefix.mp starts).length_le
        cases found
        simpa using inside
      · rcases Option.map_eq_some_iff.mp found with ⟨behind, further, rfl⟩
        have inside := induction further
        rw [List.length_cons]
        omega

theorem add_length_le_of_indexFrom?
    {text part : Text}
    {start position : Nat}
    (found : text.indexFrom? part start = some position) :
    position + part.length ≤ text.length := by
  rw [indexFrom?] at found
  split at found
  · rcases Option.map_eq_some_iff.mp found with ⟨behind, further, rfl⟩
    have inside := add_length_le_of_indexOf? further
    rw [List.length_drop] at inside
    omega
  · cases found

theorem startsWith_drop_of_indexOf?
    {text part : Text}
    {position : Nat}
    (found : text.indexOf? part = some position) :
    startsWith (text.drop position) part = true := by
  induction text generalizing position with
  | nil =>
      rw [indexOf?] at found
      split at found
      · rename_i empty
        cases found
        simp [empty]
      · cases found
  | cons c rest induction =>
      rw [indexOf?] at found
      split at found
      · rename_i starts
        cases found
        exact starts
      · rcases Option.map_eq_some_iff.mp found with ⟨behind, further, rfl⟩
        exact induction further

theorem startsWith_drop_of_indexFrom?
    {text part : Text}
    {start position : Nat}
    (found : text.indexFrom? part start = some position) :
    startsWith (text.drop position) part = true := by
  rw [indexFrom?] at found
  split at found
  · rcases Option.map_eq_some_iff.mp found with ⟨behind, further, rfl⟩
    have starts := startsWith_drop_of_indexOf? further
    rwa [List.drop_drop] at starts
  · cases found

theorem startsWith_take
    {text part : Text}
    {count : Nat} :
    startsWith (text.take count) part = true ↔
      startsWith text part = true ∧ part.length ≤ count := by
  simp only [List.isPrefixOf_iff_prefix]
  exact List.prefix_take_iff

theorem startsWith_pair_iff
    {first second c : CodePoint}
    {rest : Text} :
    startsWith (c :: rest) [first, second] = true ↔
      c = first ∧ rest.head? = some second := by
  cases rest with
  | nil => simp [List.isPrefixOf]
  | cons next rest =>
      simp [List.isPrefixOf, eq_comm (a := first), eq_comm (a := second)]

theorem exists_of_startsWith_pair
    {first second c : CodePoint}
    {rest : Text}
    (starts : startsWith (c :: rest) [first, second] = true) :
    ∃ behind, c :: rest = first :: second :: behind := by
  rw [startsWith_pair_iff] at starts
  rcases starts with ⟨rfl, next⟩
  cases rest with
  | nil => cases next
  | cons next behind =>
      cases next
      exact ⟨behind, rfl⟩

theorem indexFrom?_two (first second : CodePoint) (rest part : Text) :
    indexFrom? (first :: second :: rest) part 2 =
      (indexOf? rest part).map (2 + ·) := by
  simp [indexFrom?]

end Text

namespace Scallop

/-! ## Strings -/

/--
Whether a text, which is read backwards, ends in a backslash that escapes what
follows: one that is not escaped itself.
-/
def escapesBackwards : Text → Bool
  | [] => false
  | c :: before => c = backslash && !escapesBackwards before

/-- Whether a text ends in a backslash that escapes the next character. -/
def endsInEscape (text : Text) : Bool :=
  escapesBackwards text.reverse

/-- Whether a quote stands at a position of a string and is not escaped. -/
def closesAt (body : Text) (position : Nat) : Bool :=
  body[position]? = some quote && !endsInEscape (body.take position)

/-- The position of the quote that closes a string, from its opening quote on. -/
def closingQuote? (body : Text) : Option Nat :=
  (List.range body.length).find? (closesAt body)

@[simp]
theorem endsInEscape_nil : endsInEscape [] = false := rfl

theorem endsInEscape_singleton (c : CodePoint) :
    endsInEscape [c] = decide (c = backslash) := by
  simp [endsInEscape, escapesBackwards]

/-- What is escaped in front does not escape. -/
theorem endsInEscape_pair (c : CodePoint) :
    endsInEscape [backslash, c] = false := by
  simp [endsInEscape, escapesBackwards]

theorem endsInEscape_append
    {front : Text}
    (plain : endsInEscape front = false)
    (text : Text) :
    endsInEscape (front ++ text) = endsInEscape text := by
  rw [endsInEscape] at plain
  rw [endsInEscape, endsInEscape, List.reverse_append]
  induction text.reverse with
  | nil => exact plain
  | cons c before induction =>
      rw [List.cons_append, escapesBackwards, escapesBackwards, induction]

/-- A backslash escapes unless it is escaped itself. -/
theorem endsInEscape_concat (front : Text) (c : CodePoint) :
    endsInEscape (front ++ [c]) =
      (decide (c = backslash) && !endsInEscape front) := by
  rw [endsInEscape, endsInEscape, List.reverse_concat, escapesBackwards]

theorem drop_of_endsInEscape
    {text : Text}
    (ends : endsInEscape text = true) :
    text.drop (text.length - 1) = [backslash] := by
  rcases List.eq_nil_or_concat text with rfl | ⟨front, c, rfl⟩
  · cases ends
  · rw [List.concat_eq_append, endsInEscape_concat] at ends
    simp_all

/-- A part that neither closes a string nor escapes what follows is passed over. -/
theorem closingQuote?_append
    {front : Text}
    (open? : ∀ position < front.length, closesAt front position = false)
    (plain : endsInEscape front = false)
    (text : Text) :
    closingQuote? (front ++ text) =
      (closingQuote? text).map (front.length + ·) := by
  have before :
      (List.range front.length).find? (closesAt (front ++ text)) = none := by
    rw [List.find?_range_eq_none]
    intro position inside
    have same :
        closesAt (front ++ text) position = closesAt front position := by
      rw [closesAt, closesAt, List.getElem?_append_left inside,
        List.take_append_of_le_length (Nat.le_of_lt inside)]
    rw [same, open? position inside]
    rfl
  have behind :
      closesAt (front ++ text) ∘ (front.length + ·) = closesAt text := by
    funext position
    have cut :
        (front ++ text).take (front.length + position) =
          front ++ text.take position := by
      rw [List.take_append, List.take_of_length_le (by omega)]
      simp
    rw [Function.comp_apply, closesAt, closesAt, cut,
      endsInEscape_append plain, List.getElem?_append_right (by omega),
      Nat.add_sub_cancel_left]
  rw [closingQuote?, List.length_append, List.range_add, List.find?_append,
    before, Option.none_or, List.find?_map, behind, closingQuote?]

@[simp]
theorem closingQuote?_nil : closingQuote? [] = none := rfl

theorem closingQuote?_quote (rest : Text) :
    closingQuote? (quote :: rest) = some 0 := by
  rw [closingQuote?, List.length_cons, List.range_succ_eq_map]
  rfl

theorem closingQuote?_cons
    {c : CodePoint}
    (notQuote : c ≠ quote)
    (notEscape : c ≠ backslash)
    (rest : Text) :
    closingQuote? (c :: rest) = (closingQuote? rest).map (1 + ·) := by
  refine @closingQuote?_append [c] ?_ ?_ rest
  · intro position inside
    have first : position = 0 := by simpa using inside
    subst first
    simp [closesAt, notQuote]
  · simp [endsInEscape_singleton, notEscape]

theorem closingQuote?_escape (c : CodePoint) (rest : Text) :
    closingQuote? (backslash :: c :: rest) =
      (closingQuote? rest).map (2 + ·) := by
  refine @closingQuote?_append [backslash, c] ?_
    (endsInEscape_pair c) rest
  intro position inside
  match position, inside with
  | 0, _ => rfl
  | 1, _ => simp [closesAt, endsInEscape_singleton]

/--
Induction along a string: up to a quote, over a plain character, or over a
backslash and what it escapes.
-/
@[elab_as_elim]
theorem stringInduction
    {motive : Text → Prop}
    (nil : motive [])
    (quote : ∀ rest, motive (quote :: rest))
    (backslash : motive [backslash])
    (escape : ∀ c rest, motive rest → motive (Scallop.backslash :: c :: rest))
    (plain :
      ∀ c rest, c ≠ Scallop.quote → c ≠ Scallop.backslash →
        motive rest → motive (c :: rest))
    (body : Text) :
    motive body := by
  -- A backslash takes the next character with it, hence two steps at once.
  induction body using List.twoStepInduction with
  | nil => exact nil
  | singleton c =>
      by_cases isQuote : c = Scallop.quote
      · exact isQuote ▸ quote []
      · by_cases isEscape : c = Scallop.backslash
        · exact isEscape ▸ backslash
        · exact plain c [] isQuote isEscape nil
  | cons_cons c next rest behindBoth behindFirst =>
      by_cases isQuote : c = Scallop.quote
      · exact isQuote ▸ quote (next :: rest)
      · by_cases isEscape : c = Scallop.backslash
        · exact isEscape ▸ escape next rest behindBoth
        · exact plain c (next :: rest) isQuote isEscape (behindFirst next)

theorem lt_length_of_closingQuote?
    {body : Text}
    {position : Nat}
    (found : closingQuote? body = some position) :
    position < body.length := by
  have member := List.mem_of_find?_eq_some found
  exact List.mem_range.mp member

theorem getElem?_of_closingQuote?
    {body : Text}
    {position : Nat}
    (found : closingQuote? body = some position) :
    body[position]? = some quote := by
  have closes := List.find?_some found
  rw [closesAt, Bool.and_eq_true] at closes
  exact of_decide_eq_true closes.1

/-- The quote that closes a string does not depend on what follows it. -/
theorem closingQuote?_take
    {body : Text}
    {close : Nat}
    (found : closingQuote? body = some close)
    (more : Nat) :
    closingQuote? (body.take (close + 1 + more)) = some close := by
  induction body using stringInduction generalizing close with
  | nil => cases found
  | quote rest =>
      rw [closingQuote?_quote] at found
      cases found
      rw [Nat.zero_add, Nat.add_comm 1, List.take_succ_cons]
      exact closingQuote?_quote _
  | backslash => cases found
  | escape c rest induction =>
      rw [closingQuote?_escape] at found
      rcases Option.map_eq_some_iff.mp found with ⟨behind, further, rfl⟩
      have cut : 2 + behind + 1 + more = behind + 1 + more + 2 := by omega
      rw [cut, List.take_succ_cons, List.take_succ_cons,
        closingQuote?_escape, induction further, Option.map_some]
  | plain c rest notQuote notEscape induction =>
      rw [closingQuote?_cons notQuote notEscape] at found
      rcases Option.map_eq_some_iff.mp found with ⟨behind, further, rfl⟩
      have cut : 1 + behind + 1 + more = behind + 1 + more + 1 := by omega
      rw [cut, List.take_succ_cons, closingQuote?_cons notQuote notEscape,
        induction further, Option.map_some]

/-! ## Lexemes of a line -/

/-- What a line is made of. -/
inductive Lexeme where
  /-- A character outside strings and comments. -/
  | code (c : CodePoint)
  /-- A string with its quotes; one that is not closed lacks the last. -/
  | string (text : Text) (closed : Bool)
  | lineComment (text : Text)
  /-- A block comment, or the rest of one that an earlier line has opened. -/
  | blockComment (text : Text) (closed : Bool)
deriving DecidableEq

namespace Lexeme

/-- The characters of a lexeme. -/
def text : Lexeme → Text
  | code c => [c]
  | string text _ => text
  | lineComment text => text
  | blockComment text _ => text

/-- The characters of a lexeme that count as code. -/
def code? : Lexeme → Option CodePoint
  | code c => some c
  | _ => none

/-- A comment that goes on in the next line. -/
def isOpenComment : Lexeme → Bool
  | blockComment _ closed => !closed
  | _ => false

end Lexeme

/-- The lexemes of a line, or of the rest of one, that starts in code. -/
def codeLexemes : Text → List Lexeme
  | [] => []
  | c :: rest =>
    if Text.startsWith (c :: rest) lineComment then [.lineComment (c :: rest)]
    else if Text.startsWith (c :: rest) blockCommentStart then
      match Text.indexFrom? (c :: rest) blockCommentEnd 2 with
      | none => [.blockComment (c :: rest) false]
      | some close =>
        .blockComment ((c :: rest).take (close + 2)) true ::
          codeLexemes ((c :: rest).drop (close + 2))
    else if c = quote then
      match closingQuote? rest with
      | none => [.string (c :: rest) false]
      | some close =>
        .string ((c :: rest).take (close + 2)) true ::
          codeLexemes ((c :: rest).drop (close + 2))
    else .code c :: codeLexemes rest
termination_by line => line.length
decreasing_by
  · simp only [List.length_drop, List.length_cons]
    omega
  · simp only [List.length_drop, List.length_cons]
    omega
  · exact Nat.lt_succ_self _

/-- The lexemes of a line that may start within a block comment. -/
def lexemes (inComment : Bool) (line : Text) : List Lexeme :=
  if inComment then
    match line.indexOf? blockCommentEnd with
    | none => [.blockComment line false]
    | some close =>
      .blockComment (line.take (close + 2)) true ::
        codeLexemes (line.drop (close + 2))
  else codeLexemes line

/-- Whether the lexemes of a line leave a block comment open. -/
def leavesCommentOpen (lexemes : List Lexeme) : Bool :=
  lexemes.any Lexeme.isOpenComment

/-- The lexemes make up the line. -/
theorem flatMap_text_codeLexemes (line : Text) :
    (codeLexemes line).flatMap Lexeme.text = line := by
  fun_induction codeLexemes line with
  | case1 => rfl
  | case2 => simp [Lexeme.text]
  | case3 => simp [Lexeme.text]
  | case4 c rest _ _ close _ induction =>
      rw [List.flatMap_cons, induction, Lexeme.text, List.take_append_drop]
  | case5 => simp [Lexeme.text]
  | case6 rest close _ _ _ induction =>
      rw [List.flatMap_cons, induction, Lexeme.text, List.take_append_drop]
  | case7 c rest _ _ _ induction =>
      rw [List.flatMap_cons, induction, Lexeme.text, List.singleton_append]

theorem flatMap_text_lexemes (inComment : Bool) (line : Text) :
    (lexemes inComment line).flatMap Lexeme.text = line := by
  rw [lexemes]
  split
  · split
    · simp [Lexeme.text]
    · simp [Lexeme.text, flatMap_text_codeLexemes]
  · exact flatMap_text_codeLexemes line

/-- An escaped quote does not close a string, and neither does a comment in it. -/
example :
    lexemes true (Text.ofString "*/a\"\\\"/*\"//") =
      [.blockComment (Text.ofString "*/") true, .code 'a',
        .string (Text.ofString "\"\\\"/*\"") true,
        .lineComment (Text.ofString "//")] := by
  decide +kernel

end Scallop

end ClauseEditor
