import ClauseEditor.Highlight.Literal
import ClauseEditor.Proofs.Scallop.Positions
import ClauseEditor.Proofs.Text.Utf16

/-!
# The highlighter reads lexemes

In a line without halves of surrogate pairs the literals are the strings and
the comments among its lexemes, each with the stretch that the lexeme takes.
There is one difference: a backslash at the end of a string that is not closed
has nothing to escape, and the highlighter leaves it out of the stretch.  The
scan then looks at the backslash once more, as at code, and finds no literal
in it.
-/

namespace ClauseEditor.Highlight

open ClauseEditor.Scallop

/-- How a lexeme is coloured if it is a literal. -/
def literalKind? : Lexeme → Option LiteralKind
  | .code _ => none
  | .string _ _ => some .string
  | .lineComment _ => some .comment
  | .blockComment _ _ => some .comment

/-- How many characters are coloured of a string that is not closed. -/
def openLength (text : Text) : Nat :=
  if endsInEscape text then text.length - 1 else text.length

/-- How many characters of a literal are coloured. -/
def colouredLength : Lexeme → Nat
  | .string text false => openLength text
  | lexeme => lexeme.text.length

/-- The literals among lexemes, the first of which starts at `start`. -/
def literalsAmong (start : Nat) : List Lexeme → List Literal
  | [] => []
  | lexeme :: rest =>
    let others := literalsAmong (start + lexeme.text.length) rest
    match literalKind? lexeme with
    | none => others
    | some kind => ⟨kind, ⟨start, colouredLength lexeme⟩⟩ :: others

/-- The literals of a line, or of the rest of one, that has these lexemes. -/
def literalsOf (start : Nat) (lexemes : List Lexeme) : Literals :=
  ⟨literalsAmong start lexemes, leavesCommentOpen lexemes⟩

theorem literalsOf_nil (start : Nat) : literalsOf start [] = ⟨[], false⟩ := rfl

theorem literalsOf_code
    (start : Nat)
    (c : CodePoint)
    (rest : List Lexeme) :
    literalsOf start (.code c :: rest) = literalsOf (start + 1) rest := rfl

/-- A literal that does not leave a comment open. -/
theorem literalsOf_cons
    {lexeme : Lexeme}
    {kind : LiteralKind}
    (literal : literalKind? lexeme = some kind)
    (closed : lexeme.isOpenComment = false)
    (start : Nat)
    (rest : List Lexeme) :
    literalsOf start (lexeme :: rest) =
      (literalsOf (start + lexeme.text.length) rest).add
        ⟨kind, ⟨start, colouredLength lexeme⟩⟩ := by
  simp [literalsOf, literalsAmong, literal, leavesCommentOpen, closed,
    Literals.add]

/-- A literal that ends the line. -/
theorem literalsOf_singleton
    {lexeme : Lexeme}
    {kind : LiteralKind}
    (literal : literalKind? lexeme = some kind)
    (start : Nat) :
    literalsOf start [lexeme] =
      ⟨[⟨kind, ⟨start, colouredLength lexeme⟩⟩], lexeme.isOpenComment⟩ := by
  simp [literalsOf, literalsAmong, literal, leavesCommentOpen]

/-! ## Openers -/

variable {units : List CodeUnit}

theorem single_eq_quote {unit : CodeUnit} :
    unit.single = quote ↔ unit = .ofChar '"' := by
  rw [quote, ← Utf16.single_ofChar (by decide), Utf16.single_injective.eq_iff]

theorem single_eq_backslash {unit : CodeUnit} :
    unit.single = backslash ↔ unit = .ofChar '\\' := by
  rw [backslash, ← Utf16.single_ofChar (by decide),
    Utf16.single_injective.eq_iff]

theorem openLength_append
    {front : Text}
    (plain : endsInEscape front = false)
    (text : Text) :
    openLength (front ++ text) = front.length + openLength text := by
  rw [openLength, openLength, endsInEscape_append plain, List.length_append]
  split
  · rename_i ends
    have nonempty : text ≠ [] := by
      rintro rfl
      cases ends
    have positive := List.length_pos_iff.mpr nonempty
    omega
  · rfl

/-- How many characters of a string that follow its opening quote are coloured. -/
def stringLength (body : Text) : Nat :=
  (closingQuote? body).elim (openLength body) (· + 1)

theorem stringRest_eq (units : List CodeUnit) :
    stringRest units = stringLength (units.map CodeUnit.single) := by
  fun_induction stringRest units with
  | case1 => rfl
  | case2 =>
      rw [List.map_singleton, Utf16.single_ofChar (by decide)]
      rfl
  | case3 unit notEscape =>
      rw [← single_eq_backslash] at notEscape
      by_cases isQuote : unit.single = quote
      · rw [List.map_singleton, isQuote]
        rfl
      · rw [List.map_singleton, stringLength,
          closingQuote?_cons isQuote notEscape]
        simp [openLength, endsInEscape_singleton, notEscape]
  | case4 next rest =>
      rw [List.map_cons, Utf16.single_ofChar (by decide),
        stringLength, closingQuote?_quote]
      rfl
  | case5 next rest _ induction =>
      have escaped :=
        openLength_append (endsInEscape_pair next.single)
          (rest.map CodeUnit.single)
      rw [List.map_cons, List.map_cons, Utf16.single_ofChar (by decide),
        stringLength, closingQuote?_escape, induction, stringLength]
      cases closingQuote? (rest.map CodeUnit.single) with
      | some close => simp [Nat.add_assoc]
      | none => exact escaped.symm
  | case6 unit next rest notQuote notEscape induction =>
      rw [← single_eq_quote] at notQuote
      rw [← single_eq_backslash] at notEscape
      have plain : endsInEscape [unit.single] = false := by
        simp [endsInEscape_singleton, notEscape]
      generalize next :: rest = others at induction ⊢
      have passed := openLength_append plain (others.map CodeUnit.single)
      rw [List.map_cons, stringLength,
        closingQuote?_cons notQuote notEscape, induction, stringLength]
      cases closingQuote? (others.map CodeUnit.single) with
      | some close => simp [Nat.add_assoc]
      | none => exact passed.symm

theorem stringRest_le (units : List CodeUnit) :
    stringRest units ≤ units.length := by
  rw [stringRest_eq, stringLength, ← List.length_map CodeUnit.single]
  cases closed : closingQuote? (units.map CodeUnit.single) with
  | some close => exact lt_length_of_closingQuote? closed
  | none =>
      rw [Option.elim_none, openLength]
      split
      · exact Nat.sub_le _ 1
      · exact Nat.le_refl _

/-- The literal that opens at the start of units, by their text. -/
theorem opener?_eq (basic : Utf16.IsBasic units) :
    opener? units =
      if (Utf16.decode units).head? = some quote then
        some (.string (1 + stringLength ((Utf16.decode units).drop 1)))
      else if Text.startsWith (Utf16.decode units) lineComment then
        some .lineComment
      else if Text.startsWith (Utf16.decode units) blockCommentStart then
        some .blockComment
      else none := by
  have head :
      (Utf16.decode units).head? = some quote ↔
        units.head? = some (.ofChar '"') := by
    rw [basic.decode_eq, List.head?_map]
    cases units.head? <;> simp [single_eq_quote]
  rw [← basic.decode_drop, (basic.drop 1).decode_eq, ← stringRest_eq,
    opener?, basic.isPrefixOf_encode (by decide),
    basic.isPrefixOf_encode (by decide)]
  simp only [head]
  split
  · rename_i opens
    cases units with
    | nil => cases opens
    | cons unit rest =>
        have inside : 1 + stringRest rest ≤ (unit :: rest).length := by
          rw [Nat.add_comm]
          exact Nat.succ_le_succ (stringRest_le rest)
        rw [List.drop_one, List.tail_cons, (basic.take _).length_decode,
          List.length_take_of_le inside]
  · rfl

theorem firstOpener?_of_some
    {opener : Opener}
    (opens : opener? units = some opener) :
    firstOpener? units = some (0, opener) := by
  cases units with
  | nil => cases opens
  | cons unit rest => rw [firstOpener?, opens]

theorem firstOpener?_of_none
    {unit : CodeUnit}
    (plain : opener? (unit :: units) = none) :
    firstOpener? (unit :: units) =
      (firstOpener? units).map fun found => (found.1 + 1, found.2) := by
  rw [firstOpener?, plain]

/-! ## Stepping along a line -/

section Steps

variable {text : Text} {position : Nat}

/-- The literals from an opening mark on. -/
def literalsBehind
    (text : Text)
    (units : List CodeUnit)
    (start : Nat) :
    Opener → Literals
  | .lineComment => .lastComment start (text.length - start) false
  | .blockComment =>
    match text.indexFrom? blockCommentEnd (start + 2) with
    | none => .lastComment start (text.length - start) true
    | some close =>
      (literalsFrom text units (close + 2)).add
        ⟨.comment, ⟨start, close + 2 - start⟩⟩
  | .string length =>
    (literalsFrom text units (start + max 1 length)).add
      ⟨.string, ⟨start, length⟩⟩

theorem literalsFrom_of_length_le
    (behind : text.length ≤ position)
    (units : List CodeUnit) :
    literalsFrom text units position = ⟨[], false⟩ := by
  rw [literalsFrom, dif_neg (Nat.not_lt.mpr behind)]

/-- Where the scan goes on from a position. -/
theorem literalsFrom_eq_elim
    (inside : position < text.length)
    (units : List CodeUnit) :
    literalsFrom text units position =
      (if Utf16.isWellFormed (units.drop position) then
          firstOpener? (units.drop position)
        else none).elim ⟨[], false⟩ fun found =>
        literalsBehind text units (position + found.1) found.2 := by
  rw [literalsFrom, dif_pos inside]
  dsimp only
  cases
      if Utf16.isWellFormed (units.drop position) then
        firstOpener? (units.drop position)
      else none with
  | none => rfl
  | some found =>
      rcases found with ⟨offset, opener⟩
      cases opener with
      | string length => rfl
      | lineComment => rfl
      | blockComment =>
          simp only [Option.elim_some, literalsBehind]
          split <;> split <;> simp_all

theorem literalsFrom_of_lt
    (basic : Utf16.IsBasic units)
    (inside : position < text.length) :
    literalsFrom text units position =
      (firstOpener? (units.drop position)).elim ⟨[], false⟩ fun found =>
        literalsBehind text units (position + found.1) found.2 := by
  rw [literalsFrom_eq_elim inside, if_pos (basic.drop position).isWellFormed]

theorem literalsFrom_of_opener
    (basic : Utf16.IsBasic units)
    (inside : position < text.length)
    {opener : Opener}
    (opens : opener? (units.drop position) = some opener) :
    literalsFrom text units position =
      literalsBehind text units position opener := by
  rw [literalsFrom_of_lt basic inside, firstOpener?_of_some opens]
  rfl

/-- Where no literal opens, the search goes on. -/
theorem literalsFrom_of_none
    (basic : Utf16.IsBasic units)
    (length_eq : units.length = text.length)
    (inside : position < text.length)
    (plain : opener? (units.drop position) = none) :
    literalsFrom text units position =
      literalsFrom text units (position + 1) := by
  have rest :
      units.drop position =
        units[position] :: units.drop (position + 1) :=
    List.drop_eq_getElem_cons (by omega)
  rw [rest] at plain
  rw [literalsFrom_of_lt basic inside, rest, firstOpener?_of_none plain]
  rcases Nat.lt_or_ge (position + 1) text.length with further | last
  · rw [literalsFrom_of_lt basic further]
    cases firstOpener? (units.drop (position + 1)) with
    | none => rfl
    | some found =>
        simp only [Option.map_some, Option.elim_some]
        rw [Nat.add_assoc, Nat.add_comm 1]
  · rw [literalsFrom_of_length_le last, List.drop_of_length_le (by omega)]
    rfl

end Steps

/-! ## The literals of a line -/

section Lines

variable {position : Nat} {rest : Text}

theorem lt_length_of_drop_eq
    {text : Text}
    {c : CodePoint}
    (cut : text.drop position = c :: rest) :
    position < text.length := by
  have length := congrArg List.length cut
  rw [List.length_drop, List.length_cons] at length
  omega

theorem length_of_drop_eq
    {text : Text}
    (cut : text.drop position = rest) :
    text.length - position = rest.length := by
  rw [← cut, List.length_drop]

theorem drop_add_of_drop_eq
    {text : Text}
    (cut : text.drop position = rest)
    (count : Nat) :
    text.drop (position + count) = rest.drop count := by
  rw [← cut, List.drop_drop]

theorem indexFrom?_of_drop_eq
    {text : Text}
    {c : CodePoint}
    (cut : text.drop position = c :: rest)
    (part : Text)
    (count : Nat) :
    text.indexFrom? part (position + count) =
      (Text.indexFrom? (c :: rest) part count).map (position + ·) := by
  have inside := lt_length_of_drop_eq cut
  have length := length_of_drop_eq cut
  have present :
      position + count ≤ text.length ↔ count ≤ (c :: rest).length := by
    omega
  simp only [Text.indexFrom?, present, drop_add_of_drop_eq cut]
  split
  · simp [Function.comp_def, Nat.add_assoc]
  · rfl

theorem opener?_of_drop_eq
    (basic : Utf16.IsBasic units)
    (cut : (Utf16.decode units).drop position = rest) :
    opener? (units.drop position) =
      if rest.head? = some quote then
        some (.string (1 + stringLength (rest.drop 1)))
      else if Text.startsWith rest lineComment then some .lineComment
      else if Text.startsWith rest blockCommentStart then some .blockComment
      else none := by
  have opener := opener?_eq (basic.drop position)
  rwa [basic.decode_drop, cut] at opener

section Openers

variable
    {c : CodePoint}
    (basic : Utf16.IsBasic units)
    (cut : (Utf16.decode units).drop position = c :: rest)

include basic cut

theorem opener?_of_lineComment
    (starts : Text.startsWith (c :: rest) lineComment = true) :
    opener? (units.drop position) = some .lineComment := by
  rcases Text.exists_of_startsWith_pair starts with ⟨behind, same⟩
  rw [opener?_of_drop_eq basic cut, same]
  rfl

theorem opener?_of_blockComment
    (starts : Text.startsWith (c :: rest) blockCommentStart = true) :
    opener? (units.drop position) = some .blockComment := by
  rcases Text.exists_of_startsWith_pair starts with ⟨behind, same⟩
  rw [opener?_of_drop_eq basic cut, same]
  rfl

theorem opener?_of_quote
    (opens : c = quote) :
    opener? (units.drop position) =
      some (.string (1 + stringLength rest)) := by
  rw [opener?_of_drop_eq basic cut, opens]
  rfl

theorem opener?_of_code
    (noLine : ¬ Text.startsWith (c :: rest) lineComment = true)
    (noBlock : ¬ Text.startsWith (c :: rest) blockCommentStart = true)
    (notQuote : c ≠ quote) :
    opener? (units.drop position) = none := by
  rw [opener?_of_drop_eq basic cut, if_neg (by simpa using notQuote),
    if_neg noLine, if_neg noBlock]

end Openers

/-- Nothing opens any more behind what is coloured of an open string. -/
theorem literalsFrom_openString
    (basic : Utf16.IsBasic units)
    (cut : (Utf16.decode units).drop position = rest) :
    literalsFrom (Utf16.decode units) units (position + openLength rest) =
      ⟨[], false⟩ := by
  have length := length_of_drop_eq cut
  rw [openLength]
  split
  · rename_i ends
    have last := drop_add_of_drop_eq cut (rest.length - 1)
    rw [drop_of_endsInEscape ends] at last
    -- The highlighter looks at the backslash again, which opens nothing.
    have plain :
        opener? (units.drop (position + (rest.length - 1))) = none :=
      opener?_of_drop_eq basic last
    rw [literalsFrom_of_none basic basic.length_decode.symm
        (lt_length_of_drop_eq last) plain,
      literalsFrom_of_length_le
        (List.drop_eq_nil_iff.mp (drop_add_of_drop_eq last 1))]
  · rw [literalsFrom_of_length_le (by omega)]

/-- The literals that a search from some position on finds. -/
theorem literalsFrom_eq
    (basic : Utf16.IsBasic units)
    (cut : (Utf16.decode units).drop position = rest) :
    literalsFrom (Utf16.decode units) units position =
      literalsOf position (codeLexemes rest) := by
  fun_induction codeLexemes rest generalizing position with
  | case1 =>
      rw [literalsFrom_of_length_le (List.drop_eq_nil_iff.mp cut),
        literalsOf_nil]
  | case2 c rest starts =>
      rw [literalsFrom_of_opener basic (lt_length_of_drop_eq cut)
          (opener?_of_lineComment basic cut starts),
        literalsBehind, length_of_drop_eq cut, literalsOf_singleton rfl]
      rfl
  | case3 c rest _ starts unclosed =>
      rw [literalsFrom_of_opener basic (lt_length_of_drop_eq cut)
          (opener?_of_blockComment basic cut starts),
        literalsBehind, indexFrom?_of_drop_eq cut, unclosed,
        length_of_drop_eq cut, literalsOf_singleton rfl]
      rfl
  | case4 c rest _ starts close found induction =>
      have width : ((c :: rest).take (close + 2)).length = close + 2 :=
        List.length_take_of_le (Text.add_length_le_of_indexFrom? found)
      have further := induction (drop_add_of_drop_eq cut (close + 2))
      rw [literalsFrom_of_opener basic (lt_length_of_drop_eq cut)
          (opener?_of_blockComment basic cut starts),
        literalsBehind, indexFrom?_of_drop_eq cut, found,
        literalsOf_cons rfl rfl]
      dsimp only [Option.map_some, Lexeme.text, colouredLength]
      rw [width, ← further, Nat.add_assoc, Nat.add_sub_cancel_left]
  | case5 rest unclosed _ _ =>
      have length :
          1 + stringLength rest = openLength (quote :: rest) := by
        rw [stringLength, unclosed]
        exact (@openLength_append [quote] rfl rest).symm
      rw [literalsFrom_of_opener basic (lt_length_of_drop_eq cut)
          (opener?_of_quote basic cut rfl),
        literalsBehind, length, Nat.max_eq_right (by omega),
        literalsFrom_openString basic cut, literalsOf_singleton rfl]
      rfl
  | case6 rest close found _ _ induction =>
      have inside := lt_length_of_closingQuote? found
      have width : ((quote :: rest).take (close + 2)).length = close + 2 :=
        List.length_take_of_le (Nat.succ_le_succ inside)
      have further := induction (drop_add_of_drop_eq cut (close + 2))
      have length : 1 + stringLength rest = close + 2 := by
        rw [stringLength, found, Option.elim_some, Nat.add_comm]
      rw [literalsFrom_of_opener basic (lt_length_of_drop_eq cut)
          (opener?_of_quote basic cut rfl),
        literalsBehind, length, Nat.max_eq_right (by omega),
        literalsOf_cons rfl rfl]
      dsimp only [Lexeme.text, colouredLength]
      rw [width, ← further]
  | case7 c rest noLine noBlock notQuote induction =>
      rw [literalsFrom_of_none basic basic.length_decode.symm
          (lt_length_of_drop_eq cut)
          (opener?_of_code basic cut noLine noBlock notQuote),
        literalsOf_code]
      exact induction (drop_add_of_drop_eq cut 1)

/-- The literals of a line that may start within a block comment. -/
theorem literals_eq
    (basic : Utf16.IsBasic units)
    (inComment : Bool) :
    literals inComment units =
      literalsOf 0 (lexemes inComment (Utf16.decode units)) := by
  rw [literals, lexemes]
  cases inComment with
  | false => exact literalsFrom_eq basic List.drop_zero
  | true =>
      simp only [if_true]
      cases found : (Utf16.decode units).indexOf? blockCommentEnd with
      | none => rfl
      | some close =>
          have width :
              ((Utf16.decode units).take (close + 2)).length = close + 2 :=
            List.length_take_of_le (Text.add_length_le_of_indexOf? found)
          rw [literalsOf_cons rfl rfl]
          dsimp only [Lexeme.text, colouredLength]
          rw [width, Nat.zero_add, literalsFrom_eq basic rfl]

end Lines

end ClauseEditor.Highlight
