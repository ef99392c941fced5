import ClauseEditor.Indent.Scan
import ClauseEditor.Proofs.Scallop.Lexemes

/-!
# The scan reads lexemes

The scan of a line is determined by the lexemes of the line.  Its code text
shows the characters of code and the quotes of strings, and blanks in the
place of everything else; it ends where a line comment begins.  The depth
changes with the characters of code alone, and a comment is open after the
line if one of its lexemes is a comment that the line does not close.
-/

namespace ClauseEditor

namespace Scallop

/-- What stands in the code text for a lexeme. -/
def Lexeme.shown : Lexeme → Text
  | code c => [c]
  | string text true => quote :: (Text.spaces (text.length - 2) ++ [quote])
  | string text false => quote :: Text.spaces (text.length - 1)
  | lineComment _ => []
  | blockComment text _ => Text.spaces text.length

/-- The characters of code among some lexemes. -/
def codeCharacters (lexemes : List Lexeme) : Text :=
  lexemes.filterMap Lexeme.code?

end Scallop

namespace Indent

open ClauseEditor.Scallop

/-- The scan of a line with these lexemes. -/
def scanOf (depth : Int) (lexemes : List Lexeme) : Scanned where
  boundary :=
    ⟨(codeCharacters lexemes).foldl depthAfter depth,
      leavesCommentOpen lexemes⟩
  code := lexemes.flatMap Lexeme.shown

/-- A scan with some text in front of its code text. -/
def Scanned.behind (front : Text) (scanned : Scanned) : Scanned :=
  ⟨scanned.boundary, front ++ scanned.code⟩

@[simp]
theorem Scanned.behind_behind (first second : Text) (scanned : Scanned) :
    (scanned.behind second).behind first = scanned.behind (first ++ second) := by
  simp [Scanned.behind]

/-- A literal that is closed changes nothing but the code text. -/
theorem scanOf_cons
    {lexeme : Lexeme}
    (literal : lexeme.code? = none)
    (closed : lexeme.isOpenComment = false)
    (depth : Int)
    (lexemes : List Lexeme) :
    scanOf depth (lexeme :: lexemes) =
      (scanOf depth lexemes).behind lexeme.shown := by
  simp [scanOf, Scanned.behind, codeCharacters, leavesCommentOpen, literal,
    closed]

/-- A literal that ends the line. -/
theorem scanOf_singleton
    {lexeme : Lexeme}
    (literal : lexeme.code? = none)
    (depth : Int) :
    scanOf depth [lexeme] =
      ⟨⟨depth, lexeme.isOpenComment⟩, lexeme.shown⟩ := by
  simp [scanOf, codeCharacters, leavesCommentOpen, literal]

/-- One character of a line, unless a line comment starts there. -/
theorem scanFrom_cons
    {phase : Phase}
    {c : CodePoint}
    {rest : Text}
    (goesOn : phase.startsLineComment c rest.head? = false)
    (depth : Int) :
    scanFrom phase depth (c :: rest) =
      (scanFrom (phase.next c rest.head?)
        (if phase = .code then depthAfter depth c else depth) rest).behind
          [phase.shown c rest.head?] := by
  rw [scanFrom, goesOn]
  rfl

/-! ## Comments -/

theorem scanFrom_comment_cons
    {c : CodePoint}
    {rest : Text}
    (goesOn : ¬ (c = star ∧ rest.head? = some slash))
    (depth : Int) :
    scanFrom .comment depth (c :: rest) =
      (scanFrom .comment depth rest).behind [blank] := by
  rw [scanFrom_cons rfl, Phase.next, if_neg goesOn]
  rfl

theorem scanFrom_comment_of_none
    (depth : Int)
    {text : Text}
    (unclosed : text.indexOf? blockCommentEnd = none) :
    scanFrom .comment depth text =
      ⟨⟨depth, true⟩, Text.spaces text.length⟩ := by
  induction text with
  | nil => rfl
  | cons c rest induction =>
      rw [Text.indexOf?] at unclosed
      split at unclosed
      · cases unclosed
      · rename_i goesOn
        rw [blockCommentEnd, Text.startsWith_pair_iff] at goesOn
        rw [scanFrom_comment_cons goesOn,
          induction (Option.map_eq_none_iff.mp unclosed)]
        rfl

theorem scanFrom_comment_of_some
    (depth : Int)
    {text : Text}
    {close : Nat}
    (found : text.indexOf? blockCommentEnd = some close) :
    scanFrom .comment depth text =
      (scanFrom .code depth (text.drop (close + 2))).behind
        (Text.spaces (close + 2)) := by
  induction text generalizing close with
  | nil => cases found
  | cons c rest induction =>
      rw [Text.indexOf?] at found
      split at found
      · rename_i closes
        cases found
        rw [blockCommentEnd, Text.startsWith_pair_iff] at closes
        rcases closes with ⟨rfl, next⟩
        cases rest with
        | nil => cases next
        | cons c rest =>
            cases next
            rfl
      · rename_i goesOn
        rw [blockCommentEnd, Text.startsWith_pair_iff] at goesOn
        rcases Option.map_eq_some_iff.mp found with ⟨behind, further, rfl⟩
        rw [scanFrom_comment_cons goesOn, induction further,
          Scanned.behind_behind]
        rfl

/-! ## Strings -/

theorem scanFrom_string_quote (depth : Int) (rest : Text) :
    scanFrom .string depth (quote :: rest) =
      (scanFrom .code depth rest).behind [quote] := rfl

theorem scanFrom_string_cons
    {c : CodePoint}
    (notQuote : c ≠ quote)
    (notEscape : c ≠ backslash)
    (depth : Int)
    (rest : Text) :
    scanFrom .string depth (c :: rest) =
      (scanFrom .string depth rest).behind [blank] := by
  rw [scanFrom_cons rfl, Phase.next, if_neg notQuote, if_neg notEscape,
    Phase.shown, if_neg notQuote]
  rfl

theorem scanFrom_string_escape
    (depth : Int)
    (c : CodePoint)
    (rest : Text) :
    scanFrom .string depth (backslash :: c :: rest) =
      (scanFrom .string depth rest).behind [blank, blank] := rfl

/-- The body of a string takes part in the scan as blanks. -/
theorem scanFrom_string (depth : Int) (body : Text) :
    scanFrom .string depth body =
      match closingQuote? body with
      | none => ⟨⟨depth, false⟩, Text.spaces body.length⟩
      | some close =>
        (scanFrom .code depth (body.drop (close + 1))).behind
          (Text.spaces close ++ [quote]) := by
  induction body using stringInduction with
  | nil => rfl
  | quote rest => rw [scanFrom_string_quote, closingQuote?_quote]; rfl
  | backslash => rfl
  | escape c rest induction =>
      rw [scanFrom_string_escape, closingQuote?_escape, induction]
      cases closingQuote? rest <;>
        simp [Scanned.behind, List.replicate_succ, Nat.add_comm 2]
  | plain c rest notQuote notEscape induction =>
      rw [scanFrom_string_cons notQuote notEscape,
        closingQuote?_cons notQuote notEscape, induction]
      cases closingQuote? rest <;>
        simp [Scanned.behind, List.replicate_succ, Nat.add_comm 1]

/-! ## Lines -/

theorem scanFrom_code_blockComment (depth : Int) (rest : Text) :
    scanFrom .code depth (slash :: star :: rest) =
      (scanFrom .comment depth rest).behind (Text.spaces 2) := rfl

theorem scanFrom_code_quote (depth : Int) (rest : Text) :
    scanFrom .code depth (quote :: rest) =
      (scanFrom .string depth rest).behind [quote] := rfl

theorem scanFrom_code_cons
    {c : CodePoint}
    {rest : Text}
    (noLine : ¬ (c = slash ∧ rest.head? = some slash))
    (noBlock : ¬ (c = slash ∧ rest.head? = some star))
    (notQuote : c ≠ quote)
    (depth : Int) :
    scanFrom .code depth (c :: rest) =
      (scanFrom .code (depthAfter depth c) rest).behind [c] := by
  have plain :
      Phase.startsLineComment .code c rest.head? = false := by
    simpa [Phase.startsLineComment] using noLine
  rw [scanFrom_cons plain, Phase.next, if_neg noBlock, if_neg notQuote,
    Phase.shown, if_neg noBlock]
  rfl

/-- The scan that starts in code, by the lexemes of the line. -/
theorem scanFrom_code (depth : Int) (line : Text) :
    scanFrom .code depth line = scanOf depth (codeLexemes line) := by
  fun_induction codeLexemes line generalizing depth with
  | case1 => rfl
  | case2 c rest starts =>
      rcases Text.exists_of_startsWith_pair starts with ⟨behind, same⟩
      rw [same]
      rfl
  | case3 c rest _ starts unclosed =>
      rcases Text.exists_of_startsWith_pair starts with ⟨behind, same⟩
      rw [same, Text.indexFrom?_two, Option.map_eq_none_iff] at unclosed
      rw [same, scanFrom_code_blockComment,
        scanFrom_comment_of_none depth unclosed, scanOf_singleton rfl]
      rfl
  | case4 c rest _ starts close found induction =>
      rcases Text.exists_of_startsWith_pair starts with ⟨behind, same⟩
      rw [same, Text.indexFrom?_two] at found
      rcases Option.map_eq_some_iff.mp found with ⟨inside, further, rfl⟩
      have present : inside + 2 ≤ behind.length :=
        Text.add_length_le_of_indexOf? further
      have width :
          ((slash :: star :: behind).take (2 + inside + 2)).length =
            2 + (inside + 2) := by
        rw [List.length_take_of_le (by simp; omega)]
        omega
      have rest :
          (slash :: star :: behind).drop (2 + inside + 2) =
            behind.drop (inside + 2) := by
        rw [Nat.add_assoc, Nat.add_comm 2]
        rfl
      rw [same] at induction ⊢
      rw [scanFrom_code_blockComment, scanFrom_comment_of_some depth further,
        scanOf_cons rfl rfl, ← induction, rest, Scanned.behind_behind,
        Lexeme.shown, width, List.replicate_append_replicate]
  | case5 rest unclosed _ _ =>
      rw [scanFrom_code_quote, scanFrom_string, unclosed,
        scanOf_singleton rfl]
      rfl
  | case6 rest close found _ _ induction =>
      have inside := lt_length_of_closingQuote? found
      have width :
          ((quote :: rest).take (close + 2)).length = close + 2 := by
        rw [List.length_take_of_le (by simp; omega)]
      rw [scanFrom_code_quote, scanFrom_string, found, scanOf_cons rfl rfl,
        ← induction, Scanned.behind_behind, Lexeme.shown, width]
      rfl
  | case7 c rest noLine noBlock notQuote induction =>
      rw [lineComment, Text.startsWith_pair_iff] at noLine
      rw [blockCommentStart, Text.startsWith_pair_iff] at noBlock
      rw [scanFrom_code_cons noLine noBlock notQuote, induction]
      rfl

/-- The scan of a line that starts at a boundary, by its lexemes. -/
theorem scan_eq (boundary : Boundary) (line : Text) :
    boundary.scan line =
      scanOf boundary.depth (lexemes boundary.inComment line) := by
  rcases boundary with ⟨depth, inComment⟩
  cases inComment with
  | false => exact scanFrom_code depth line
  | true =>
      rw [Boundary.scan, lexemes, if_pos rfl]
      cases found : line.indexOf? blockCommentEnd with
      | none =>
          rw [scanOf_singleton rfl]
          exact scanFrom_comment_of_none depth found
      | some close =>
          have present : close + 2 ≤ line.length :=
            Text.add_length_le_of_indexOf? found
          have width : (line.take (close + 2)).length = close + 2 :=
            List.length_take_of_le present
          rw [scanOf_cons rfl rfl, Lexeme.shown, width, ← scanFrom_code]
          exact scanFrom_comment_of_some depth found

end Indent

end ClauseEditor
