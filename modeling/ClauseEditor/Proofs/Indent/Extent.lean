import ClauseEditor.Proofs.Indent.Transparency

/-!
# How far an answer reads

Whatever a memo can be asked about a line is determined by three things: the
boundary in front of the line, the code of the line, and the nearest code
above it.  They are the outlook from the line, and `Question.answerFrom` gives
the answer from it.

No part of an outlook depends on the lines further down.  So two documents that
agree up to a line have the same answers there, and a memo that has gone beyond
the line keeps nothing in it that could show.  An index past the end has the
outlook from the end, and a negative one the outlook from a document without
lines.
-/

namespace ClauseEditor.Indent

/-! ## The line that a question is about -/

namespace Question

/-- The index that a question names. -/
def index : Question → Int
  | boundary index => index
  | code index => index
  | depth index => index
  | placement index => index
  | column index _ => index

/-- The same question about another index. -/
def withIndex (index : Int) : Question → Question
  | boundary _ => boundary index
  | code _ => code index
  | depth _ => depth index
  | placement _ => placement index
  | column _ style => column index style

@[simp]
theorem index_withIndex (index : Int) (question : Question) :
    (question.withIndex index).index = index := by
  cases question <;> rfl

end Question

/-! ## Outlooks -/

/-- All that the answers about a line depend on. -/
@[ext]
structure Outlook where
  boundary : Boundary
  own : Text
  above : Text
deriving DecidableEq

/-- What decides the placement of a line with this outlook. -/
def Outlook.surroundings (outlook : Outlook) : Surroundings :=
  ⟨Text.strip outlook.own, outlook.above⟩

/-- The outlook from the line with an index. -/
def outlookAt (lines : List Text) (index : Int) : Outlook where
  boundary := boundaryAt lines index.toNat
  own := codeAt lines index
  above := codeAboveIn lines index.toNat

/-- The answer about a line with this outlook. -/
def Question.answerFrom (outlook : Outlook) : Question → Answer
  | boundary _ => .boundary outlook.boundary
  | code _ => .code outlook.own
  | depth _ => .depth outlook.boundary.depth
  | placement _ => .placement (.of outlook.surroundings)
  | column _ style =>
    .column (columnFrom style outlook.boundary.depth outlook.surroundings)

@[simp]
theorem Question.answerFrom_withIndex
    (outlook : Outlook)
    (index : Int)
    (question : Question) :
    (question.withIndex index).answerFrom outlook =
      question.answerFrom outlook := by
  cases question <;> rfl

/-! ## Lines without code -/

/-- Going up passes over lines that show no code. -/
theorem codeAboveIn_add_of_blank
    {lines : List Text}
    {line count : Nat}
    (blank : ∀ further < count,
      Text.strip (codeAt lines (line + further : Nat)) = []) :
    codeAboveIn lines (line + count) = codeAboveIn lines line := by
  induction count with
  | zero => rfl
  | succ count induction =>
      have last := blank count (Nat.lt_succ_self count)
      have others := induction fun further inside =>
        blank further (Nat.lt_succ_of_lt inside)
      rw [← Nat.add_assoc, codeAboveIn, if_pos last]
      exact others

/-! ## Past the end -/

theorem boundaryAt_of_length_le
    {lines : List Text}
    {line : Nat}
    (beyond : lines.length ≤ line) :
    boundaryAt lines line = boundaryAt lines lines.length := by
  rw [boundaryAt, boundaryAt, List.take_of_length_le beyond, List.take_length]

theorem codeAboveIn_of_length_le
    {lines : List Text}
    {line : Nat}
    (beyond : lines.length ≤ line) :
    codeAboveIn lines line = codeAboveIn lines lines.length := by
  obtain ⟨count, rfl⟩ := Nat.exists_eq_add_of_le beyond
  apply codeAboveIn_add_of_blank
  intro further _
  have absent : codeAt lines (lines.length + further : Nat) = [] :=
    codeAt_of_length_le (by omega)
  rw [absent]
  rfl

theorem codeAboveIn_clampIndex (lines : List Text) (index : Int) :
    codeAboveIn lines (Memo.clampIndex lines index) =
      codeAboveIn lines index.toNat := by
  rcases Nat.le_total index.toNat lines.length with within | beyond
  · rw [Memo.clampIndex, Nat.min_eq_left within]
  · rw [Memo.clampIndex, Nat.min_eq_right beyond,
      codeAboveIn_of_length_le beyond]

/-! ## Answers from outlooks -/

/-- The outlook from a line gives all answers about it. -/
theorem Question.answerIn_eq (lines : List Text) (question : Question) :
    question.answerIn lines =
      question.answerFrom (outlookAt lines question.index) := by
  cases question <;>
    simp only [answerIn, answerFrom, index, outlookAt, Outlook.surroundings,
      surroundingsIn, columnIn, boundaryAt_clampIndex, codeAboveIn_clampIndex]

theorem Memo.Coherent.ask_eq
    {memo : Memo}
    {lines : List Text}
    (coherent : memo.Coherent lines)
    (question : Question) :
    (memo.ask lines question).1 =
      question.answerFrom (outlookAt lines question.index) :=
  (coherent.ask_fst question).trans (question.answerIn_eq lines)

/-- The placement of a line, from its outlook. -/
theorem placementOf_empty_eq (lines : List Text) (index : Int) :
    (placementOf .empty lines index).1 =
      .of (outlookAt lines index).surroundings :=
  Answer.placement.inj
    ((Memo.coherent_empty lines).ask_eq (.placement index))

/-- The column of a line, from its outlook. -/
theorem columnOf_empty_eq
    (lines : List Text)
    (index : Int)
    (style : Style) :
    (columnOf .empty lines index style).1 =
      columnFrom style (outlookAt lines index).boundary.depth
        (outlookAt lines index).surroundings :=
  Answer.column.inj
    ((Memo.coherent_empty lines).ask_eq (.column index style))

/-! ## What an outlook depends on -/

section Congruence

variable
    {left right : List Text}
    {count : Nat}
    (same : left.take count = right.take count)

include same

theorem getD_eq_of_take_eq
    {line : Nat}
    (inside : line < count) :
    left.getD line [] = right.getD line [] := by
  have found : left[line]? = right[line]? := by
    rw [← List.getElem?_take_of_lt inside, same,
      List.getElem?_take_of_lt inside]
  rw [List.getD_eq_getElem?_getD, found, List.getD_eq_getElem?_getD]

theorem codeAt_congr
    {index : Int}
    (inside : index.toNat < count) :
    codeAt left index = codeAt right index := by
  rw [codeAt, codeAt, boundaryAt_congr same (Nat.le_of_lt inside),
    getD_eq_of_take_eq same inside]

/-- The nearest code is found among the lines above. -/
theorem codeAboveIn_congr
    {line : Nat}
    (within : line ≤ count) :
    codeAboveIn left line = codeAboveIn right line := by
  induction line with
  | zero => rfl
  | succ line induction =>
      have own : codeAt left line = codeAt right line :=
        codeAt_congr same within
      rw [codeAboveIn, codeAboveIn, own, induction (Nat.le_of_succ_le within)]

/-- The outlook from a line does not show the lines further down. -/
theorem outlookAt_congr
    {index : Int}
    (inside : index.toNat < count) :
    outlookAt left index = outlookAt right index := by
  apply Outlook.ext
  · exact boundaryAt_congr same (Nat.le_of_lt inside)
  · exact codeAt_congr same inside
  · exact codeAboveIn_congr same (Nat.le_of_lt inside)

end Congruence

/-- Past the end the outlook is the one from the end. -/
theorem outlookAt_of_length_le
    {lines : List Text}
    {index : Int}
    (beyond : lines.length ≤ index) :
    outlookAt lines index = outlookAt lines lines.length := by
  have line_beyond : lines.length ≤ index.toNat := by omega
  apply Outlook.ext
  · exact boundaryAt_of_length_le line_beyond
  · show codeAt lines index = codeAt lines lines.length
    rw [codeAt_of_length_le beyond, codeAt_of_length_le (Int.le_refl _)]
  · exact codeAboveIn_of_length_le line_beyond

/-- In front of all lines there is nothing to be seen. -/
theorem outlookAt_of_neg
    (lines : List Text)
    {index : Int}
    (negative : index < 0) :
    outlookAt lines index = ⟨.start, [], []⟩ := by
  have first : index.toNat = 0 := Int.toNat_of_nonpos (Int.le_of_lt negative)
  rw [outlookAt, first, codeAt, if_pos negative]
  rfl

/-- A document without lines has nothing to be seen anywhere. -/
theorem outlookAt_nil (index : Int) :
    outlookAt [] index = ⟨.start, [], []⟩ := by
  rcases Int.lt_or_le index 0 with negative | positive
  · exact outlookAt_of_neg [] negative
  · exact (outlookAt_of_length_le positive).trans rfl

theorem take_eq_of_getElem?_eq
    {left right : List Text}
    {index : Int}
    (agree : ∀ line : Nat, line ≤ index → left[line]? = right[line]?)
    (positive : 0 ≤ index) :
    left.take (index.toNat + 1) = right.take (index.toNat + 1) := by
  apply List.ext_getElem?
  intro line
  rcases Nat.lt_or_ge line (index.toNat + 1) with inside | outside
  · rw [List.getElem?_take_of_lt inside, List.getElem?_take_of_lt inside]
    exact agree line (by omega)
  · rw [List.getElem?_take_eq_none outside, List.getElem?_take_eq_none outside]

/--
Documents that agree up to a line have the same answers about it, whatever a
memo of either remembers.  An index past the end stands for the end, and a
negative one is answered as in a document without lines.
-/
theorem ask_reads_to_index
    {left right : List Text}
    {leftMemo rightMemo : Memo}
    (leftCoherent : leftMemo.Coherent left)
    (rightCoherent : rightMemo.Coherent right)
    (question : Question) :
    ((∀ line : Nat, line ≤ question.index → left[line]? = right[line]?) →
      (leftMemo.ask left question).1 = (rightMemo.ask right question).1) ∧
    (left.length ≤ question.index →
      ∀ other : Memo, other.Coherent left →
        (leftMemo.ask left question).1 =
          (other.ask left (question.withIndex left.length)).1) ∧
    (question.index < 0 →
      ∀ index : Int,
        (leftMemo.ask left question).1 =
          (Memo.empty.ask [] (question.withIndex index)).1) := by
  rw [leftCoherent.ask_eq]
  refine ⟨?_, ?_, ?_⟩
  · intro agree
    rw [rightCoherent.ask_eq]
    rcases Int.lt_or_le question.index 0 with negative | positive
    -- A negative index asks for no agreement at all.
    · rw [outlookAt_of_neg left negative, outlookAt_of_neg right negative]
    · have same := take_eq_of_getElem?_eq agree positive
      rw [outlookAt_congr same (Nat.lt_succ_self _)]
  · intro beyond other otherCoherent
    rw [otherCoherent.ask_eq, Question.index_withIndex,
      Question.answerFrom_withIndex, outlookAt_of_length_le beyond]
  · intro negative index
    rw [(Memo.coherent_empty []).ask_eq, Question.index_withIndex,
      Question.answerFrom_withIndex, outlookAt_of_neg left negative,
      outlookAt_nil]

/--
A memo that covers five lines and an empty one of another document agree about
the third line, below which one document has a bracket and the other a comment.
-/
theorem ask_reads_to_index_sample :
    ∃ memo : Memo,
      memo.size = 5 ∧
        memo.Coherent (["a(", "b,", "c", "d)", "e,"].map Text.ofString) ∧
        (memo.ask (["a(", "b,", "c", "d)", "e,"].map Text.ofString)
            (.column 2 .standard)).1 =
          (Memo.empty.ask (["a(", "b,", "c", "/*"].map Text.ofString)
            (.column 2 .standard)).1 ∧
        (memo.ask (["a(", "b,", "c", "d)", "e,"].map Text.ofString)
            (.column 2 .standard)).1 = .column 6 ∧
        (memo.ask (["a(", "b,", "c", "d)", "e,"].map Text.ofString)
            (.column 9 .standard)).1 =
          (Memo.empty.ask (["a(", "b,", "c", "d)", "e,"].map Text.ofString)
            (.column 5 .standard)).1 ∧
        (memo.ask (["a(", "b,", "c", "d)", "e,"].map Text.ofString)
            (.placement (-1))).1 =
          (Memo.empty.ask [] (.placement 7)).1 := by
  have leftEmpty :=
    Memo.coherent_empty (["a(", "b,", "c", "d)", "e,"].map Text.ofString)
  have rightEmpty :=
    Memo.coherent_empty (["a(", "b,", "c", "/*"].map Text.ofString)
  have filled := leftEmpty.ask_snd (.depth 5)
  refine ⟨_, by decide +kernel, filled, ?_, by decide +kernel, ?_, ?_⟩
  · refine (ask_reads_to_index filled rightEmpty (.column 2 .standard)).1 ?_
    intro line within
    have above : line < 3 := by
      change (line : Int) ≤ 2 at within
      omega
    have same :
        ∀ line < 3,
          (["a(", "b,", "c", "d)", "e,"].map Text.ofString)[line]? =
            (["a(", "b,", "c", "/*"].map Text.ofString)[line]? := by
      decide
    exact same line above
  · exact
      (ask_reads_to_index filled rightEmpty (.column 9 .standard)).2.1
        (by decide) .empty leftEmpty
  · exact
      (ask_reads_to_index filled rightEmpty (.placement (-1))).2.2
        (by decide) 7

end ClauseEditor.Indent
