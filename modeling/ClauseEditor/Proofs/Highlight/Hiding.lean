import ClauseEditor.Proofs.Highlight.Agreement
import ClauseEditor.Proofs.Highlight.Borders

/-!
# Literals hide what they hold

Every literal starts and ends at a border of its line: with a quote or a slash,
at an end of the line, or in front of the backslash that a string leaves over.
What stands between two literals is therefore coloured by itself.  Two lines
with their literals in the same places and the same text around them have the
same colours there, whatever the literals hold; and a literal has no colour
but its own.
-/

namespace ClauseEditor.Highlight

open ClauseEditor.Scallop

/-! ## Where literals start and end -/

/-- A line has a border at a position. -/
def IsBorderAt (units : List CodeUnit) (position : Nat) : Prop :=
  IsBorder (units.take position) (units.drop position)

theorem isBorderAt_zero (units : List CodeUnit) : IsBorderAt units 0 :=
  .inl fun _ nothing => nomatch nothing

theorem isBorderAt_of_length_le
    {units : List CodeUnit}
    {position : Nat}
    (behind : units.length ≤ position) :
    IsBorderAt units position := by
  rw [IsBorderAt, List.drop_of_length_le behind]
  exact .inr fun _ nothing => nomatch nothing

section Marks

variable
    {units : List CodeUnit}
    (basic : Utf16.IsBasic units)
    {position : Nat}
    {mark : CodePoint}
    (delimiter : isDelimiter mark = true)

include basic

theorem getElem?_decode (position : Nat) :
    (Utf16.decode units)[position]? = units[position]?.map CodeUnit.single := by
  rw [basic.decode_eq, List.getElem?_map]

include delimiter

/-- There is a border in front of a delimiter. -/
theorem isBorderAt_of_mark
    (stands : (Utf16.decode units)[position]? = some mark) :
    IsBorderAt units position := by
  rw [getElem?_decode basic, Option.map_eq_some_iff] at stands
  rcases stands with ⟨unit, stands, rfl⟩
  refine .inr fun first found => ?_
  rw [List.head?_drop, stands] at found
  cases found
  exact delimiter

/-- There is a border behind a delimiter. -/
theorem isBorderAt_succ_of_mark
    (stands : (Utf16.decode units)[position]? = some mark) :
    IsBorderAt units (position + 1) := by
  rw [getElem?_decode basic, Option.map_eq_some_iff] at stands
  rcases stands with ⟨unit, stands, rfl⟩
  refine .inl fun last found => ?_
  rw [List.take_add_one, stands, Option.toList_some, List.getLast?_concat]
    at found
  cases found
  exact delimiter

end Marks

theorem getElem?_of_drop_eq
    {text rest : Text}
    {position : Nat}
    (cut : text.drop position = rest)
    (offset : Nat) :
    text[position + offset]? = rest[offset]? := by
  rw [← cut, List.getElem?_drop]

theorem getElem?_of_commentEnd
    {text : Text}
    {close : Nat}
    (ends : Text.startsWith (text.drop close) blockCommentEnd = true) :
    text[close + 1]? = some slash := by
  have last : (text.drop close)[1]? = some slash := by
    rcases List.isPrefixOf_iff_prefix.mp ends with ⟨behind, same⟩
    rw [← same]
    rfl
  rwa [List.getElem?_drop] at last

/-- A stretch between two borders of the line. -/
def IsFramed (units : List CodeUnit) (span : Span) : Prop :=
  IsBorderAt units span.start ∧ IsBorderAt units (span.start + span.length)

section Literals

variable {units : List CodeUnit} (basic : Utf16.IsBasic units)

theorem mem_literalsAmong_cons
    {start : Nat}
    {lexeme : Lexeme}
    {kind : LiteralKind}
    (isLiteral : literalKind? lexeme = some kind)
    {rest : List Lexeme}
    {literal : Literal}
    (member : literal ∈ literalsAmong start (lexeme :: rest)) :
    literal = ⟨kind, ⟨start, colouredLength lexeme⟩⟩ ∨
      literal ∈ literalsAmong (start + lexeme.text.length) rest := by
  rw [literalsAmong, isLiteral] at member
  exact List.mem_cons.mp member

include basic

section Cut

variable
    {position : Nat}
    {c : CodePoint}
    {rest : Text}
    (cut : (Utf16.decode units).drop position = c :: rest)

include cut

theorem isBorderAt_of_opening
    (delimiter : isDelimiter c = true) :
    IsBorderAt units position :=
  isBorderAt_of_mark basic delimiter (getElem?_of_drop_eq cut 0)

/-- A literal that takes the rest of the line. -/
theorem isFramed_to_end
    (delimiter : isDelimiter c = true) :
    IsFramed units ⟨position, (c :: rest).length⟩ := by
  refine ⟨isBorderAt_of_opening basic cut delimiter, ?_⟩
  have length := length_of_drop_eq cut
  apply isBorderAt_of_length_le
  rw [← basic.length_decode]
  dsimp only
  omega

/-- A literal that ends with a delimiter. -/
theorem isFramed_to_mark
    (delimiter : isDelimiter c = true)
    {offset : Nat}
    {mark : CodePoint}
    (closes : isDelimiter mark = true)
    (stands : (c :: rest)[offset]? = some mark) :
    IsFramed units ⟨position, offset + 1⟩ := by
  rw [← getElem?_of_drop_eq cut] at stands
  exact ⟨isBorderAt_of_opening basic cut delimiter,
    isBorderAt_succ_of_mark basic closes stands⟩

/-- A string that is not closed, without a backslash that escapes nothing. -/
theorem isFramed_open
    (delimiter : isDelimiter c = true) :
    IsFramed units ⟨position, openLength (c :: rest)⟩ := by
  rw [openLength]
  split
  · rename_i ends
    have last := drop_of_endsInEscape ends
    have stands :
        (Utf16.decode units)[position + ((c :: rest).length - 1)]? =
          some backslash := by
      rw [getElem?_of_drop_eq cut, ← List.head?_drop, last]
      rfl
    exact ⟨isBorderAt_of_opening basic cut delimiter,
      isBorderAt_of_mark basic rfl stands⟩
  · exact isFramed_to_end basic cut delimiter

end Cut

theorem isFramed_of_mem_codeLexemes
    {position : Nat}
    {rest : Text}
    (cut : (Utf16.decode units).drop position = rest)
    {literal : Literal}
    (member : literal ∈ literalsAmong position (codeLexemes rest)) :
    IsFramed units literal.span := by
  fun_induction codeLexemes rest generalizing position with
  | case1 => cases member
  | case2 c rest starts =>
      have opens := (Text.startsWith_pair_iff.mp starts).1
      rcases mem_literalsAmong_cons rfl member with rfl | further
      · exact isFramed_to_end basic cut (opens ▸ rfl)
      · cases further
  | case3 c rest _ starts unclosed =>
      have opens := (Text.startsWith_pair_iff.mp starts).1
      rcases mem_literalsAmong_cons rfl member with rfl | further
      · exact isFramed_to_end basic cut (opens ▸ rfl)
      · cases further
  | case4 c rest _ starts close found induction =>
      have opens := (Text.startsWith_pair_iff.mp starts).1
      have width : ((c :: rest).take (close + 2)).length = close + 2 :=
        List.length_take_of_le (Text.add_length_le_of_indexFrom? found)
      have closes :=
        getElem?_of_commentEnd (Text.startsWith_drop_of_indexFrom? found)
      rcases mem_literalsAmong_cons rfl member with rfl | further
      · dsimp only [colouredLength, Lexeme.text]
        rw [width]
        exact isFramed_to_mark basic cut (opens ▸ rfl) rfl closes
      · rw [Lexeme.text, width] at further
        exact induction (drop_add_of_drop_eq cut (close + 2)) further
  | case5 rest unclosed _ _ =>
      rcases mem_literalsAmong_cons rfl member with rfl | further
      · exact isFramed_open basic cut rfl
      · cases further
  | case6 rest close found _ _ induction =>
      have inside := lt_length_of_closingQuote? found
      have width : ((quote :: rest).take (close + 2)).length = close + 2 :=
        List.length_take_of_le (Nat.succ_le_succ inside)
      have closes : (quote :: rest)[close + 1]? = some quote := by
        rw [List.getElem?_cons_succ, getElem?_of_closingQuote? found]
      rcases mem_literalsAmong_cons rfl member with rfl | further
      · dsimp only [colouredLength, Lexeme.text]
        rw [width]
        exact isFramed_to_mark basic cut rfl rfl closes
      · rw [Lexeme.text, width] at further
        exact induction (drop_add_of_drop_eq cut (close + 2)) further
  | case7 c rest noLine noBlock notQuote induction =>
      exact induction (drop_add_of_drop_eq cut 1) member

/-- Every literal of a line lies between two borders. -/
theorem isFramed_of_mem_literals
    {inComment : Bool}
    {literal : Literal}
    (member : literal ∈ (literals inComment units).found) :
    IsFramed units literal.span := by
  rw [literals_eq basic] at member
  dsimp only [literalsOf, lexemes] at member
  cases inComment with
  | false => exact isFramed_of_mem_codeLexemes basic List.drop_zero member
  | true =>
      rw [if_pos rfl] at member
      cases found : (Utf16.decode units).indexOf? blockCommentEnd with
      | none =>
          simp only [found] at member
          rcases mem_literalsAmong_cons rfl member with rfl | further
          · refine ⟨isBorderAt_zero units, isBorderAt_of_length_le ?_⟩
            rw [← basic.length_decode, Nat.zero_add]
            exact Nat.le_refl _
          · cases further
      | some close =>
          have width :
              ((Utf16.decode units).take (close + 2)).length = close + 2 :=
            List.length_take_of_le (Text.add_length_le_of_indexOf? found)
          have closes :=
            getElem?_of_commentEnd (Text.startsWith_drop_of_indexOf? found)
          simp only [found] at member
          rcases mem_literalsAmong_cons rfl member with rfl | further
          · dsimp only [colouredLength, Lexeme.text]
            rw [width]
            refine ⟨isBorderAt_zero units, ?_⟩
            rw [Nat.zero_add]
            exact isBorderAt_succ_of_mark basic rfl closes
          · rw [Lexeme.text, width, Nat.zero_add] at further
            exact isFramed_of_mem_codeLexemes basic rfl further

end Literals

/-! ## Stretches between literals -/

/-- No literal covers the position. -/
def Outside (literals : List Literal) (position : Nat) : Prop :=
  ∀ kind, ¬ Covered literals kind position

section Stretches

variable
    {literals : List Literal}
    {position : Nat}
    (outside : Outside literals position)
    {mark : Nat → Prop}

theorem exists_covers_of_not_outside
    {position : Nat}
    (covered : ¬ Outside literals position) :
    ∃ literal ∈ literals, literal.span.covers position = true := by
  simp only [Outside, not_forall, not_not] at covered
  rcases covered with ⟨_, literal, member, _, covers⟩
  exact ⟨literal, member, covers⟩

theorem Outside.not_covers
    {position : Nat}
    (outside : Outside literals position)
    {literal : Literal}
    (member : literal ∈ literals) :
    ¬ literal.span.covers position = true :=
  fun covers => outside literal.kind ⟨literal, member, rfl, covers⟩

include outside

/--
A stretch without literals reaches back to the end of a literal, or to the
start of the line.
-/
theorem exists_start
    (zero : mark 0)
    (ends :
      ∀ literal ∈ literals, mark (literal.span.start + literal.span.length)) :
    ∃ start ≤ position,
      mark start ∧
        ∀ other, start ≤ other → other ≤ position → Outside literals other := by
  induction position with
  | zero =>
      refine ⟨0, Nat.le_refl 0, zero, fun other _ inside => ?_⟩
      rwa [Nat.le_zero.mp inside]
  | succ position induction =>
      by_cases before : Outside literals position
      · rcases induction before with ⟨start, inside, marked, between⟩
        refine ⟨start, Nat.le_succ_of_le inside, marked, ?_⟩
        intro other lower upper
        rcases Nat.le_succ_iff.mp upper with earlier | same
        · exact between other lower earlier
        · exact same ▸ outside
      · rcases exists_covers_of_not_outside before
          with ⟨literal, member, covers⟩
        have beyond := outside.not_covers member
        rw [Span.covers_iff] at covers beyond
        have last :
            literal.span.start + literal.span.length = position + 1 := by
          omega
        refine ⟨position + 1, Nat.le_refl _, last ▸ ends literal member, ?_⟩
        intro other lower upper
        rwa [Nat.le_antisymm upper lower]

/-- It reaches on to the start of a literal, or to the end of the line. -/
theorem exists_stop
    {length : Nat}
    (final : ∀ position, length ≤ position → mark position)
    (starts : ∀ literal ∈ literals, mark literal.span.start) :
    ∃ stop > position,
      mark stop ∧
        ∀ other, position ≤ other → other < stop → Outside literals other := by
  induction left : length - position generalizing position with
  | zero =>
      refine ⟨position + 1, Nat.lt_succ_self _, final _ (by omega), ?_⟩
      intro other lower upper
      rwa [Nat.le_antisymm (Nat.le_of_lt_succ upper) lower]
  | succ left induction =>
      by_cases further : Outside literals (position + 1)
      · rcases induction further (by omega) with ⟨stop, inside, marked, between⟩
        refine ⟨stop, Nat.lt_of_succ_lt inside, marked, ?_⟩
        intro other lower upper
        rcases Nat.eq_or_lt_of_le lower with same | later
        · exact same ▸ outside
        · exact between other later upper
      · rcases exists_covers_of_not_outside further
          with ⟨literal, member, covers⟩
        have beyond := outside.not_covers member
        rw [Span.covers_iff] at covers beyond
        have first : literal.span.start = position + 1 := by omega
        refine
          ⟨position + 1, Nat.lt_succ_self _, first ▸ starts literal member, ?_⟩
        intro other lower upper
        rwa [Nat.le_antisymm (Nat.le_of_lt_succ upper) lower]

end Stretches

/-! ## Colours outside and inside literals -/

/-- Between two borders the roles, literals aside, are those of the stretch. -/
theorem getElem?_tokenRoles
    {units : List CodeUnit}
    (basic : Utf16.IsBasic units)
    {start stop position : Nat}
    (startBorder : IsBorderAt units start)
    (stopBorder : IsBorderAt units stop)
    (behind : start ≤ position)
    (before : position < stop)
    (inside : position < units.length) :
    (tokenRoles units)[position]? =
      (tokenRoles ((units.drop start).take (stop - start)))[
        position - start]? := by
  have front :
      units.take stop =
        units.take start ++ (units.drop start).take (stop - start) := by
    rw [← List.take_add, Nat.add_sub_cancel' (by omega)]
  have cutStop := tokenRoles_append stopBorder (by rwa [List.take_append_drop])
  have cutStart :=
    tokenRoles_append (startBorder.take (stop - start))
      (front ▸ basic.take stop)
  rw [List.take_append_drop, front, cutStart] at cutStop
  have width : (tokenRoles (units.take start)).length = start := by
    rw [length_tokenRoles, List.length_take]
    omega
  rw [cutStop, List.append_assoc, List.getElem?_append_right (by omega), width,
    List.getElem?_append_left]
  rw [length_tokenRoles, List.length_take, List.length_drop]
  omega

section Paint

variable {position : Nat} {literals : List Literal}

/-- Paints the literals of a line over its other roles. -/
def paintLiterals (literals : List Literal) (roles : Roles) : Roles :=
  literals.foldl
    (fun roles literal => paint literal.kind.role roles literal.span) roles

theorem paintLiterals_cons
    (literal : Literal)
    (literals : List Literal)
    (roles : Roles) :
    paintLiterals (literal :: literals) roles =
      paintLiterals literals
        (paint literal.kind.role roles literal.span) :=
  rfl

theorem roles_colourLine (inComment : Bool) (units : List CodeUnit) :
    (colourLine inComment units).roles =
      paintLiterals (Highlight.literals inComment units).found
        (tokenRoles units) :=
  rfl

/-- Literals leave the roles of what they do not cover. -/
theorem getElem?_paintLiterals_of_outside
    (outside : Outside literals position)
    (roles : Roles) :
    (paintLiterals literals roles)[position]? = roles[position]? := by
  have uncovered (literal : Literal) (member : literal ∈ literals) :
      ¬ literal.span.covers position = true :=
    outside.not_covers member
  clear outside
  induction literals generalizing roles with
  | nil => rfl
  | cons literal literals induction =>
      have own := uncovered literal List.mem_cons_self
      rw [paintLiterals_cons, induction _ fun other member =>
          uncovered other (List.mem_cons_of_mem literal member),
        getElem?_paint]
      simp [own]

/-- What literals of one kind cover gets the role of that kind. -/
theorem getElem?_paintLiterals_of_covered
    {kind : LiteralKind}
    (covered : Covered literals kind position)
    (unique : ∀ other, Covered literals other position → other = kind)
    {roles : Roles}
    (inside : position < roles.length) :
    (paintLiterals literals roles)[position]? = some (some kind.role) := by
  induction literals generalizing roles with
  | nil =>
      rcases covered with ⟨_, nothing, _⟩
      cases nothing
  | cons literal literals induction =>
      have further (other : LiteralKind)
          (covered : Covered literals other position) :
          Covered (literal :: literals) other position := by
        rcases covered with ⟨found, member, same, covers⟩
        exact ⟨found, List.mem_cons_of_mem literal member, same, covers⟩
      rw [paintLiterals_cons]
      by_cases again : Covered literals kind position
      · apply induction again fun other covered =>
          unique other (further other covered)
        rwa [length_paint]
      · -- The last literal that covers the position is painted last.
        rw [getElem?_paintLiterals_of_outside]
        · rcases covered with ⟨found, member, same, covers⟩
          rcases List.mem_cons.mp member with rfl | member
          · rw [getElem?_paint, List.getElem?_eq_getElem inside,
              Option.map_some, if_pos covers, same]
          · exact absurd ⟨found, member, same, covers⟩ again
        · intro other covered
          cases unique other (further other covered)
          exact again covered

end Paint

/-- A position belongs to a literal of at most one kind, and to the line. -/
theorem covered_unique
    {units : List CodeUnit}
    (basic : Utf16.IsBasic units)
    {inComment : Bool}
    {kind : LiteralKind}
    {position : Nat}
    (covered : Covered (literals inComment units).found kind position) :
    position < units.length ∧
      ∀ other,
        Covered (literals inComment units).found other position →
          other = kind := by
  rw [literals_eq basic] at covered ⊢
  rcases covered_literalsOf_iff.mp covered with ⟨found, stands, same, _⟩
  refine ⟨?_, fun other covered => ?_⟩
  · have character :=
      getElem?_flatMap_text (lexemes inComment (Utf16.decode units)) position
    rw [flatMap_text_lexemes, stands, Option.bind_some,
      List.getElem?_eq_getElem (mem_of_lexemeAt? stands).2] at character
    rw [← basic.length_decode]
    exact (List.getElem?_eq_some_iff.mp character).1
  · rcases covered_literalsOf_iff.mp covered
      with ⟨again, standsAgain, sameAgain, _⟩
    cases stands.symm.trans standsAgain
    cases same.symm.trans sameAgain
    rfl

/-- What a literal covers has no role but that of its kind. -/
theorem getElem?_roles_of_covered
    {units : List CodeUnit}
    (basic : Utf16.IsBasic units)
    {inComment : Bool}
    {kind : LiteralKind}
    {position : Nat}
    (covered : Covered (literals inComment units).found kind position) :
    (colourLine inComment units).roles[position]? =
      some (some kind.role) := by
  rcases covered_unique basic covered with ⟨inside, unique⟩
  rw [roles_colourLine]
  apply getElem?_paintLiterals_of_covered covered unique
  rwa [length_tokenRoles]

section Alike

variable
    {first second : List CodeUnit}
    (firstBasic : Utf16.IsBasic first)
    (secondBasic : Utf16.IsBasic second)
    (length_eq : first.length = second.length)
    {inComment : Bool}
    (found_eq :
      (literals inComment first).found = (literals inComment second).found)
    (alike :
      ∀ position,
        Outside (literals inComment first).found position →
          first[position]? = second[position]?)

include firstBasic secondBasic length_eq found_eq alike

/-- Literals do not matter to what is recognised around them. -/
theorem getElem?_tokenRoles_of_outside
    {position : Nat}
    (outside : Outside (literals inComment first).found position)
    (inside : position < first.length) :
    (tokenRoles first)[position]? = (tokenRoles second)[position]? := by
  let mark (position : Nat) : Prop :=
    IsBorderAt first position ∧ IsBorderAt second position
  have framed (literal : Literal)
      (member : literal ∈ (literals inComment first).found) :
      IsFramed first literal.span ∧ IsFramed second literal.span :=
    ⟨isFramed_of_mem_literals firstBasic member,
      isFramed_of_mem_literals secondBasic (found_eq ▸ member)⟩
  have final (position : Nat) (behind : first.length ≤ position) :
      mark position :=
    ⟨isBorderAt_of_length_le behind,
      isBorderAt_of_length_le (length_eq ▸ behind)⟩
  have zero : mark 0 := ⟨isBorderAt_zero first, isBorderAt_zero second⟩
  rcases exists_start outside zero
      fun literal member =>
        ⟨(framed literal member).1.2, (framed literal member).2.2⟩
    with ⟨start, behind, startMarked, before⟩
  rcases exists_stop outside final
      fun literal member =>
        ⟨(framed literal member).1.1, (framed literal member).2.1⟩
    with ⟨stop, ahead, stopMarked, after⟩
  have same :
      (first.drop start).take (stop - start) =
        (second.drop start).take (stop - start) := by
    apply List.ext_getElem?
    intro offset
    rw [List.getElem?_take, List.getElem?_take]
    split
    · rw [List.getElem?_drop, List.getElem?_drop]
      apply alike
      rcases Nat.le_total (start + offset) position with earlier | later
      · exact before _ (Nat.le_add_right start offset) earlier
      · exact after _ later (by omega)
    · rfl
  rw [getElem?_tokenRoles firstBasic startMarked.1 stopMarked.1 behind ahead
      inside,
    getElem?_tokenRoles secondBasic startMarked.2 stopMarked.2 behind ahead
      (length_eq ▸ inside),
    same]

end Alike

/--
Two lines of one length that start alike, in code or in a comment, have strings
and comments in the same places, and have the same text around them.  Then they
have the same roles around their literals, and within them no role but that of
the literal.  So what literals hold has no influence on colours.
-/
theorem colourLine_hides_literals
    {first second : List CodeUnit}
    (firstBasic : Utf16.IsBasic first)
    (secondBasic : Utf16.IsBasic second)
    (length_eq : first.length = second.length)
    (inComment : Bool)
    (found_eq :
      (literals inComment first).found = (literals inComment second).found)
    (alike :
      ∀ position,
        Outside (literals inComment first).found position →
          first[position]? = second[position]?) :
    (∀ position,
        Outside (literals inComment first).found position →
          (colourLine inComment first).roles[position]? =
            (colourLine inComment second).roles[position]?) ∧
      ∀ kind position,
        Covered (literals inComment first).found kind position →
          (colourLine inComment first).roles[position]? =
              some (some kind.role) ∧
            (colourLine inComment second).roles[position]? =
              some (some kind.role) := by
  refine ⟨fun position outside => ?_, fun kind position covered => ?_⟩
  · rw [roles_colourLine, roles_colourLine, ← found_eq,
      getElem?_paintLiterals_of_outside outside,
      getElem?_paintLiterals_of_outside outside]
    rcases Nat.lt_or_ge position first.length with inside | behind
    · exact
        getElem?_tokenRoles_of_outside firstBasic secondBasic length_eq
          found_eq alike outside inside
    · rw [List.getElem?_eq_none (by rwa [length_tokenRoles]),
        List.getElem?_eq_none (by rw [length_tokenRoles]; omega)]
  · exact ⟨getElem?_roles_of_covered firstBasic covered,
      getElem?_roles_of_covered secondBasic (found_eq ▸ covered)⟩

/--
A comment from the line above, a string, a comment, and a string that is not
closed: what they hold reads like code in one line and like openings of other
literals in the other.
-/
theorem colourLine_hides_literals_sample :
    ∃ first second,
      first = Utf16.encode (Text.ofString "if*/rel p(\"rel\")/*1*/<\"in\\") ∧
        second =
          Utf16.encode (Text.ofString "\"<*/rel p(\"\\\"/\")/*\"*/<\"//\\") ∧
        Utf16.IsBasic first ∧
        Utf16.IsBasic second ∧
        (literals true first).found =
          [⟨.comment, ⟨0, 4⟩⟩, ⟨.string, ⟨10, 5⟩⟩, ⟨.comment, ⟨16, 5⟩⟩,
            ⟨.string, ⟨22, 3⟩⟩] ∧
        (∀ position,
          Outside (literals true first).found position →
            (colourLine true first).roles[position]? =
              (colourLine true second).roles[position]?) ∧
        ∀ kind position,
          Covered (literals true first).found kind position →
            (colourLine true first).roles[position]? =
                some (some kind.role) ∧
              (colourLine true second).roles[position]? =
                some (some kind.role) := by
  let first := Utf16.encode (Text.ofString "if*/rel p(\"rel\")/*1*/<\"in\\")
  let second :=
    Utf16.encode (Text.ofString "\"<*/rel p(\"\\\"/\")/*\"*/<\"//\\")
  have firstBasic : Utf16.IsBasic first := by decide +kernel
  have secondBasic : Utf16.IsBasic second := by decide +kernel
  have length_eq : first.length = second.length := by decide +kernel
  have found_eq :
      (literals true first).found = (literals true second).found := by
    decide +kernel
  have checked :
      ∀ position < first.length,
        (∃ literal ∈ (literals true first).found,
            literal.span.covers position = true) ∨
          first[position]? = second[position]? := by
    decide +kernel
  have alike (position : Nat)
      (outside : Outside (literals true first).found position) :
      first[position]? = second[position]? := by
    rcases Nat.lt_or_ge position first.length with inside | behind
    · rcases checked position inside with ⟨literal, member, covers⟩ | same
      · exact absurd covers (outside.not_covers member)
      · exact same
    · rw [List.getElem?_eq_none behind,
        List.getElem?_eq_none (length_eq ▸ behind)]
  have hidden :=
    colourLine_hides_literals firstBasic secondBasic length_eq true found_eq
      alike
  exact ⟨first, second, rfl, rfl, firstBasic, secondBasic, by decide +kernel,
    hidden.1, hidden.2⟩

end ClauseEditor.Highlight
