import ClauseEditor.Highlight.Line
import ClauseEditor.Proofs.Document.Lines
import ClauseEditor.Proofs.Highlight.Literals
import ClauseEditor.Proofs.Indent.Lexis
import ClauseEditor.Proofs.Indent.Reading

/-!
# The highlighter and the indentation scan agree

The highlighter colours the strings and the comments of a line, and the scan
keeps the code of it.  Both read the same lexemes, so in a document without
halves of surrogate pairs they tell the same story.  A block comment is open
for both after the same lines.  What has not the colour of a literal is code
and stands unchanged in the code text; what has the colour of a comment is
blank there or cut off; and what has the colour of a string is a blank or a
quote.

There is one exception.  A backslash that ends a line in a string that is not
closed is a blank for the scan but has not the colour of the string.
-/

namespace ClauseEditor.Highlight

open ClauseEditor.Document
open ClauseEditor.Indent
open ClauseEditor.Scallop

/-! ## Colours by position -/

/-- Whether some literal of a kind covers a position. -/
def Covered
    (literals : List Literal)
    (kind : LiteralKind)
    (position : Nat) :
    Prop :=
  ∃ literal ∈ literals,
    literal.kind = kind ∧ literal.span.covers position = true

theorem start_le_of_mem_literalsAmong
    {start : Nat}
    {lexemes : List Lexeme}
    {literal : Literal}
    (member : literal ∈ literalsAmong start lexemes) :
    start ≤ literal.span.start := by
  induction lexemes generalizing start with
  | nil => cases member
  | cons lexeme rest induction =>
      rw [literalsAmong] at member
      split at member
      · exact Nat.le_of_add_right_le (induction member)
      · rcases List.mem_cons.mp member with rfl | behind
        · exact Nat.le_refl start
        · exact Nat.le_of_add_right_le (induction behind)

theorem colouredLength_le (lexeme : Lexeme) :
    colouredLength lexeme ≤ lexeme.text.length := by
  cases lexeme with
  | string text closed =>
      cases closed with
      | true => exact Nat.le_refl _
      | false =>
          rw [colouredLength, openLength]
          split
          · exact Nat.sub_le _ 1
          · exact Nat.le_refl _
  | _ => exact Nat.le_refl _

theorem covered_cons
    {start position : Nat}
    {lexeme : Lexeme}
    {rest : List Lexeme}
    {kind : LiteralKind} :
    Covered (literalsAmong start (lexeme :: rest)) kind position ↔
      (literalKind? lexeme = some kind ∧ start ≤ position ∧
          position < start + colouredLength lexeme) ∨
        Covered (literalsAmong (start + lexeme.text.length) rest) kind
          position := by
  rw [literalsAmong, Covered, Covered]
  cases literalKind? lexeme with
  | none => simp
  | some own => simp [Span.covers]

/-- A position has the colour of the lexeme that stands there. -/
theorem covered_iff
    {start position : Nat}
    {lexemes : List Lexeme}
    {kind : LiteralKind} :
    Covered (literalsAmong start lexemes) kind (start + position) ↔
      ∃ found,
        lexemeAt? lexemes position = some found ∧
          literalKind? found.1 = some kind ∧
          found.2 < colouredLength found.1 := by
  induction lexemes generalizing start position with
  | nil => simp [Covered, literalsAmong, lexemeAt?]
  | cons lexeme rest induction =>
      rw [covered_cons]
      rcases Nat.lt_or_ge position lexeme.text.length with inside | behind
      · have others :
            ¬ Covered (literalsAmong (start + lexeme.text.length) rest) kind
              (start + position) := by
          rintro ⟨literal, member, _, covers⟩
          have further := start_le_of_mem_literalsAmong member
          simp only [Span.covers, Bool.and_eq_true, decide_eq_true_eq] at covers
          omega
        rw [lexemeAt?_cons_of_lt inside]
        simp [others]
      · have short := colouredLength_le lexeme
        have own : ¬ start + position < start + colouredLength lexeme := by
          omega
        have shifted :
            start + position =
              start + lexeme.text.length +
                (position - lexeme.text.length) := by
          omega
        rw [lexemeAt?_cons_of_le behind, ← induction, ← shifted]
        simp [own]

/-! ## Code text by position -/

/-- Only a line comment takes less room in the code text than in the line. -/
theorem length_shown
    {lexeme : Lexeme}
    (quotes : lexeme.HasQuotes)
    (shown : ∀ text, lexeme ≠ .lineComment text) :
    lexeme.shown.length = lexeme.text.length := by
  cases lexeme with
  | code c => rfl
  | string text closed =>
      cases closed with
      | true =>
          rcases quotes with ⟨body, rfl⟩
          simp [Lexeme.shown, Lexeme.text]
      | false =>
          rcases quotes with ⟨body, rfl⟩
          simp [Lexeme.shown, Lexeme.text]
  | lineComment text => exact absurd rfl (shown text)
  | blockComment text closed => exact List.length_replicate

/-- The code text shows at a position what it shows for the lexeme there. -/
theorem getElem?_flatMap_shown
    {lexemes : List Lexeme}
    (fit : Fit lexemes)
    (quotes : ∀ lexeme ∈ lexemes, lexeme.HasQuotes)
    (position : Nat) :
    (lexemes.flatMap Lexeme.shown)[position]? =
      (lexemeAt? lexemes position).bind fun found =>
        found.1.shown[found.2]? := by
  induction lexemes generalizing position with
  | nil => rfl
  | cons lexeme rest induction =>
      have own := quotes lexeme List.mem_cons_self
      have others := induction (List.pairwise_cons.mp fit).2 fun other member =>
        quotes other (List.mem_cons_of_mem lexeme member)
      rw [List.flatMap_cons]
      by_cases comment : ∃ text, lexeme = .lineComment text
      · rcases comment with ⟨text, rfl⟩
        cases fit.eq_nil rfl
        rcases Nat.lt_or_ge position text.length with inside | behind
        · rw [lexemeAt?_cons_of_lt inside]
          rfl
        · rw [lexemeAt?_cons_of_le behind]
          rfl
      · have width : lexeme.shown.length = lexeme.text.length :=
          length_shown own fun text same => comment ⟨text, same⟩
        rcases Nat.lt_or_ge position lexeme.text.length with inside | behind
        · rw [lexemeAt?_cons_of_lt inside,
            List.getElem?_append_left (by omega)]
          rfl
        · rw [lexemeAt?_cons_of_le behind,
            List.getElem?_append_right (by omega), width, others]

theorem eq_of_mem_shown_string
    {text : Text}
    {closed : Bool}
    {c : CodePoint}
    (member : c ∈ (Lexeme.string text closed).shown) :
    c = blank ∨ c = quote := by
  cases closed with
  | true =>
      simp only [Lexeme.shown, List.mem_cons, List.mem_append,
        List.mem_replicate, List.not_mem_nil, or_false] at member
      rcases member with isQuote | ⟨_, isBlank⟩ | isQuote
      · exact .inr isQuote
      · exact .inl isBlank
      · exact .inr isQuote
  | false =>
      simp only [Lexeme.shown, List.mem_cons, List.mem_replicate] at member
      rcases member with isQuote | ⟨_, isBlank⟩
      · exact .inr isQuote
      · exact .inl isBlank

/-- A string is shown as quotes and blanks. -/
theorem getElem?_shown_string
    {text : Text}
    {closed : Bool}
    (quotes : (Lexeme.string text closed).HasQuotes)
    {offset : Nat}
    (inside : offset < text.length) :
    (Lexeme.string text closed).shown[offset]? = some blank ∨
      (Lexeme.string text closed).shown[offset]? = some quote := by
  have width : (Lexeme.string text closed).shown.length = text.length :=
    length_shown quotes fun other => Lexeme.noConfusion
  have present : offset < (Lexeme.string text closed).shown.length := by
    rwa [width]
  rw [List.getElem?_eq_getElem present, Option.some_inj, Option.some_inj]
  exact eq_of_mem_shown_string (List.getElem_mem present)

/-- A comment is shown as blanks, or not at all. -/
theorem getElem?_shown_comment
    {lexeme : Lexeme}
    (comment : literalKind? lexeme = some .comment)
    (offset : Nat) :
    lexeme.shown[offset]? = none ∨ lexeme.shown[offset]? = some blank := by
  cases lexeme with
  | code c => cases comment
  | string text closed => cases comment
  | lineComment text => exact .inl rfl
  | blockComment text closed =>
      rw [Lexeme.shown, List.getElem?_replicate]
      split
      · exact .inr rfl
      · exact .inl rfl

/-! ## Agreement in a line -/

/--
Whether a position holds a backslash that ends its line in a string that is
not closed, so that it escapes nothing.
-/
def IsBareEscape (lexemes : List Lexeme) (position : Nat) : Prop :=
  position + 1 = (lexemes.flatMap Lexeme.text).length ∧
    ∃ text offset,
      lexemeAt? lexemes position = some (.string text false, offset) ∧
        endsInEscape text = true

section BareEscape

variable {text : Text}

theorem getElem?_of_endsInEscape
    (ends : endsInEscape text = true) :
    text[text.length - 1]? = some backslash := by
  rw [← List.head?_drop, drop_of_endsInEscape ends]
  rfl

/-- The scan blanks a backslash that escapes nothing. -/
theorem getElem?_shown_of_endsInEscape
    (quotes : (Lexeme.string text false).HasQuotes)
    (ends : endsInEscape text = true) :
    (Lexeme.string text false).shown[text.length - 1]? = some blank := by
  rcases quotes with ⟨body, rfl⟩
  have ends : endsInEscape body = true := by
    rwa [← @endsInEscape_append [quote] rfl body]
  cases body with
  | nil => cases ends
  | cons c rest => simp [Lexeme.shown]

/-- Of a literal, only a backslash that escapes nothing is not coloured. -/
theorem eq_of_colouredLength_le
    {lexeme : Lexeme}
    {offset : Nat}
    (inside : offset < lexeme.text.length)
    (outside : colouredLength lexeme ≤ offset) :
    ∃ text,
      lexeme = .string text false ∧ endsInEscape text = true ∧
        offset + 1 = text.length := by
  cases lexeme with
  | string text closed =>
      cases closed with
      | true => exact absurd inside (Nat.not_lt.mpr outside)
      | false =>
          rw [colouredLength, openLength] at outside
          rw [Lexeme.text] at inside
          split at outside
          · rename_i ends
            exact ⟨text, rfl, ends, by omega⟩
          · exact absurd inside (Nat.not_lt.mpr outside)
  | _ => exact absurd inside (Nat.not_lt.mpr outside)

end BareEscape

/-- What the literals of a line and its scan say about each other. -/
structure Agree
    (text : Text)
    (lexemes : List Lexeme)
    (literals : Literals)
    (scanned : Scanned) :
    Prop where
  openComment_eq : literals.openComment = scanned.boundary.inComment
  plain (position : Nat) :
    position < text.length →
    (∀ kind, ¬ Covered literals.found kind position) →
    ¬ IsBareEscape lexemes position →
      scanned.code[position]? = text[position]?
  bareEscape (position : Nat) :
    IsBareEscape lexemes position →
      text[position]? = some backslash ∧
        (∀ kind, ¬ Covered literals.found kind position) ∧
        scanned.code[position]? = some blank
  comment (position : Nat) :
    Covered literals.found .comment position →
      scanned.code[position]? = none ∨ scanned.code[position]? = some blank
  string (position : Nat) :
    Covered literals.found .string position →
      scanned.code[position]? = some blank ∨
        scanned.code[position]? = some quote

section Positions

variable {lexemes : List Lexeme} {position : Nat}

theorem covered_literalsOf_iff
    {kind : LiteralKind} :
    Covered (literalsOf 0 lexemes).found kind position ↔
      ∃ found,
        lexemeAt? lexemes position = some found ∧
          literalKind? found.1 = some kind ∧
          found.2 < colouredLength found.1 := by
  rw [literalsOf, ← covered_iff, Nat.zero_add]

/-- The string that a backslash ends is the last lexeme. -/
theorem IsBareEscape.exists_last
    (bare : IsBareEscape lexemes position)
    (fit : Fit lexemes) :
    ∃ text,
      lexemeAt? lexemes position =
          some (.string text false, text.length - 1) ∧
        endsInEscape text = true := by
  rcases bare with ⟨last, text, offset, stands, ends⟩
  have position_eq :
      position + text.length =
        (lexemes.flatMap Lexeme.text).length + offset :=
    (fit.last stands rfl).2
  have offset_eq : offset = text.length - 1 := by omega
  exact ⟨text, offset_eq ▸ stands, ends⟩

theorem IsBareEscape.not_covered
    (bare : IsBareEscape lexemes position)
    (fit : Fit lexemes)
    (kind : LiteralKind) :
    ¬ Covered (literalsOf 0 lexemes).found kind position := by
  rcases bare.exists_last fit with ⟨text, stands, ends⟩
  rw [covered_literalsOf_iff]
  rintro ⟨found, same, _, coloured⟩
  cases stands.symm.trans same
  rw [colouredLength, openLength, if_pos ends] at coloured
  exact Nat.lt_irrefl _ coloured

/-- What has no colour is code, or a backslash that escapes nothing. -/
theorem exists_code_of_not_covered
    (fit : Fit lexemes)
    (inside : position < (lexemes.flatMap Lexeme.text).length)
    (uncovered :
      ∀ kind, ¬ Covered (literalsOf 0 lexemes).found kind position)
    (regular : ¬ IsBareEscape lexemes position) :
    ∃ c offset, lexemeAt? lexemes position = some (.code c, offset) := by
  rcases exists_lexemeAt? inside with ⟨⟨lexeme, offset⟩, stands⟩
  rcases mem_of_lexemeAt? stands with ⟨_, present⟩
  cases kind : literalKind? lexeme with
  | none =>
      cases lexeme with
      | code c => exact ⟨c, offset, stands⟩
      | _ => cases kind
  | some kind =>
      have outside : colouredLength lexeme ≤ offset := by
        apply Nat.not_lt.mp
        intro coloured
        exact uncovered _
          (covered_literalsOf_iff.mpr ⟨_, stands, kind, coloured⟩)
      rcases eq_of_colouredLength_le present outside
        with ⟨text, rfl, ends, last⟩
      have position_eq :
          position + text.length =
            (lexemes.flatMap Lexeme.text).length + offset :=
        (fit.last stands rfl).2
      exact absurd ⟨by omega, text, offset, stands, ends⟩ regular

theorem agree_lexemes
    (fit : Fit lexemes)
    (quotes : ∀ lexeme ∈ lexemes, lexeme.HasQuotes)
    (depth : Int) :
    Agree (lexemes.flatMap Lexeme.text) lexemes (literalsOf 0 lexemes)
      (scanOf depth lexemes) := by
  have code := getElem?_flatMap_shown fit quotes
  constructor
  case openComment_eq => rfl
  case plain =>
    intro position inside uncovered regular
    rcases exists_code_of_not_covered fit inside uncovered regular
      with ⟨c, offset, stands⟩
    rw [scanOf, code, getElem?_flatMap_text, stands]
    rfl
  case bareEscape =>
    intro position bare
    refine ⟨?_, bare.not_covered fit, ?_⟩
    · rcases bare.exists_last fit with ⟨text, stands, ends⟩
      rw [getElem?_flatMap_text, stands]
      exact getElem?_of_endsInEscape ends
    · rcases bare.exists_last fit with ⟨text, stands, ends⟩
      rw [scanOf, code, stands]
      exact getElem?_shown_of_endsInEscape
        (quotes _ (mem_of_lexemeAt? stands).1) ends
  case comment =>
    intro position inside
    rcases covered_literalsOf_iff.mp inside with ⟨found, stands, comment, _⟩
    rw [scanOf, code, stands]
    exact getElem?_shown_comment comment found.2
  case string =>
    intro position inside
    rcases covered_literalsOf_iff.mp inside
      with ⟨⟨lexeme, offset⟩, stands, isString, _⟩
    rcases mem_of_lexemeAt? stands with ⟨member, present⟩
    rw [scanOf, code, stands]
    cases lexeme with
    | string text closed =>
        exact getElem?_shown_string (quotes _ member) present
    | code c => cases isString
    | lineComment text => cases isString
    | blockComment text closed => cases isString

end Positions

/-- The literals of a line agree with its scan. -/
theorem agree_literals
    {units : List CodeUnit}
    (basic : Utf16.IsBasic units)
    (boundary : Boundary) :
    Agree (Utf16.decode units)
      (lexemes boundary.inComment (Utf16.decode units))
      (literals boundary.inComment units)
      (boundary.scan (Utf16.decode units)) := by
  have agree :=
    agree_lexemes (fit_lexemes boundary.inComment (Utf16.decode units))
      (fun _ => hasQuotes_of_mem_lexemes) boundary.depth
  rwa [flatMap_text_lexemes, ← literals_eq basic, ← scan_eq] at agree

/-! ## Agreement in a document -/

/-- Colouring starts each line in a comment if the scan does. -/
theorem getElem?_colourLines
    {lines : List (List CodeUnit)}
    (basic : ∀ units ∈ lines, Utf16.IsBasic units)
    (boundary : Boundary)
    (line : Nat) :
    (colourLines boundary.inComment lines)[line]? =
      lines[line]?.map
        (colourLine
          (((lines.map Utf16.decode).take line).foldl Boundary.after
            boundary).inComment) := by
  induction lines generalizing boundary line with
  | nil => rfl
  | cons units lines induction =>
      have openComment :=
        (agree_literals (basic units List.mem_cons_self)
          boundary).openComment_eq
      cases line with
      | zero => rfl
      | succ line =>
          rw [colourLines, List.getElem?_cons_succ, colourLine, openComment,
            induction fun others member =>
              basic others (List.mem_cons_of_mem units member)]
          rfl

/--
The highlighter and the indentation scan agree about every line of a document:
on the block comments that are open before and after it, and about each of its
positions.
-/
theorem colourLines_agree
    {content : List CodeUnit}
    (basic : Utf16.IsBasic content)
    {line : Nat}
    {units : List CodeUnit}
    (present : (linesOf content)[line]? = some units) :
    let before := boundaryAt (textsOf content) line
    let after := boundaryAt (textsOf content) (line + 1)
    (colourLines false (linesOf content))[line]? =
        some (colourLine before.inComment units) ∧
      (colourLine before.inComment units).openComment = after.inComment ∧
      Agree (Utf16.decode units)
        (lexemes before.inComment (Utf16.decode units))
        (literals before.inComment units)
        (before.scan (Utf16.decode units)) := by
  have basicLines :
      ∀ others ∈ linesOf content, Utf16.IsBasic others :=
    fun others member unit inside =>
      basic unit (mem_of_mem_linesOf member inside)
  have agree :=
    agree_literals (basicLines units (List.mem_of_getElem? present))
      (boundaryAt (textsOf content) line)
  have text :
      (textsOf content).getD line [] = Utf16.decode units := by
    rw [textsOf, List.getD_eq_getElem?_getD, List.getElem?_map, present]
    rfl
  refine ⟨?_, ?_, agree⟩
  · have coloured := getElem?_colourLines basicLines .start line
    rw [present] at coloured
    exact coloured
  · rw [boundaryAt_succ, text]
    exact agree.openComment_eq

/--
The second line begins in a comment, and a backslash ends it in a string that
is not closed.
-/
theorem colourLines_agree_sample :
    ∃ content units,
      content = contentOf (Text.ofString "a(/* \"\n/ */ b\"//\\\")\" \"q\\") ∧
        Utf16.IsBasic content ∧
        (linesOf content)[1]? = some units ∧
        (colourLines false (linesOf content))[1]? =
          some (colourLine true units) ∧
        (colourLine true units).openComment = false ∧
        (literals true units).found =
          [⟨.comment, ⟨0, 4⟩⟩, ⟨.string, ⟨6, 7⟩⟩, ⟨.string, ⟨14, 2⟩⟩] ∧
        Agree (Utf16.decode units) (lexemes true (Utf16.decode units))
          (literals true units)
          ((boundaryAt (textsOf content) 1).scan (Utf16.decode units)) := by
  let content :=
    contentOf (Text.ofString "a(/* \"\n/ */ b\"//\\\")\" \"q\\")
  let units := Utf16.encode (Text.ofString "/ */ b\"//\\\")\" \"q\\")
  have basic : Utf16.IsBasic content := by decide +kernel
  have present : (linesOf content)[1]? = some units := by decide +kernel
  have before : (boundaryAt (textsOf content) 1).inComment = true := by
    decide +kernel
  have after : (boundaryAt (textsOf content) 2).inComment = false := by
    decide +kernel
  have agreed := colourLines_agree basic present
  simp only [before, after] at agreed
  exact ⟨content, units, rfl, basic, present, agreed.1, agreed.2.1,
    by decide +kernel, agreed.2.2⟩

end ClauseEditor.Highlight
