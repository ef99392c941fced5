import ClauseEditor.Proofs.Indent.Coherence

/-!
# A memo never shows

A memo only saves work.  In a run that starts with an empty memo, questions
fill it and edits cut it back, in whatever order.  An edit may change any
lines below a number of lines that it keeps, and has to cut the memo back to
those lines or further.  Then every answer in the run is the one that an empty
memo gives about the lines as they are.

A run keeps the memo coherent, and a coherent memo answers what
`Question.answerIn` says without a memo.
-/

namespace ClauseEditor.Indent

/-- What a memo can be asked about the line with some index. -/
inductive Question where
  | boundary (index : Int)
  | code (index : Int)
  | depth (index : Int)
  | placement (index : Int)
  | column (index : Int) (style : Style)
deriving DecidableEq

inductive Answer where
  | boundary (boundary : Boundary)
  | code (code : Text)
  | depth (depth : Int)
  | placement (placement : Placement)
  | column (column : Int)
deriving DecidableEq

/-- The answer to a question, and the memo that is left. -/
def Memo.ask
    (memo : Memo)
    (lines : List Text) :
    Question → Answer × Memo
  | .boundary index => (memo.boundaryBefore lines index).map .boundary id
  | .code index => (memo.codeOf lines index).map .code id
  | .depth index => (memo.depthAt lines index).map .depth id
  | .placement index => (placementOf memo lines index).map .placement id
  | .column index style =>
    (columnOf memo lines index style).map .column id

/-- The answer to a question, without a memo. -/
def Question.answerIn (lines : List Text) : Question → Answer
  | .boundary index =>
    .boundary (boundaryAt lines (Memo.clampIndex lines index))
  | .code index => .code (codeAt lines index)
  | .depth index =>
    .depth (boundaryAt lines (Memo.clampIndex lines index)).depth
  | .placement index => .placement (.of (surroundingsIn lines index))
  | .column index style => .column (columnIn style lines index)

/--
The lines and the memo at some point of a run that starts with an empty memo.
An edit keeps the first `kept` lines and cuts the memo back to the index
`cut`, which may be negative.
-/
inductive Reached (first : List Text) : List Text → Memo → Prop where
  | start : Reached first first .empty
  | ask
      {lines : List Text}
      {memo : Memo}
      (question : Question)
      (reached : Reached first lines memo) :
      Reached first lines (memo.ask lines question).2
  | edit
      {lines : List Text}
      {memo : Memo}
      (others : List Text)
      (kept : Nat)
      (cut : Int)
      (agree : others.take kept = lines.take kept)
      (cut_le : cut ≤ kept)
      (reached : Reached first lines memo) :
      Reached first others (memo.cutAt cut)

namespace Memo.Coherent

variable {memo : Memo} {lines : List Text}

theorem ask_snd
    (coherent : memo.Coherent lines)
    (question : Question) :
    (memo.ask lines question).2.Coherent lines := by
  apply coherent_iff.mpr
  intro count
  have below := coherent_iff.mp coherent count
  cases question with
  | boundary index =>
      rw [ask, Prod.map_snd, boundaryBefore_snd]
      exact below.extendTo _
  | code index => exact codeOf_snd below index
  | depth index => exact depthAt_snd below index
  | placement index => exact surroundingsOf_snd below index
  | column index style => exact columnOf_snd below index style

/-- A coherent memo gives the right answers. -/
theorem ask_fst
    (coherent : memo.Coherent lines)
    (question : Question) :
    (memo.ask lines question).1 = question.answerIn lines := by
  have below := coherent_iff.mp coherent lines.length
  cases question with
  | boundary index =>
      exact congrArg Answer.boundary
        (boundaryBefore_fst below (clampIndex_le lines index))
  | code index =>
      exact congrArg Answer.code
        (codeOf_fst below (clampIndex_le lines index))
  | depth index =>
      exact congrArg Answer.depth
        (depthAt_fst below (clampIndex_le lines index))
  | placement index =>
      exact congrArg (Answer.placement ∘ Placement.of)
        (surroundingsOf_fst below (clampIndex_le lines index))
  | column index style =>
      exact congrArg Answer.column
        (columnOf_fst below (clampIndex_le lines index) style)

/-- An edit leaves what is above it alone, so the memo of that stays right. -/
theorem edit
    (coherent : memo.Coherent lines)
    {others : List Text}
    {kept : Nat}
    {cut : Int}
    (agree : others.take kept = lines.take kept)
    (cut_le : cut ≤ kept) :
    (memo.cutAt cut).Coherent others := by
  have fewer : cut.toNat ≤ kept := by omega
  have below : memo.CoherentBelow others kept :=
    (coherent_iff.mp coherent kept).congr agree.symm
  -- A negative cut forgets as much as a cut at the first line.
  exact (below.mono fewer).cutAt

end Memo.Coherent

theorem Reached.coherent
    {first lines : List Text}
    {memo : Memo}
    (reached : Reached first lines memo) :
    memo.Coherent lines := by
  induction reached with
  | start => exact Memo.coherent_empty first
  | ask question _ induction => exact induction.ask_snd question
  | edit others kept cut agree cut_le _ induction =>
      exact induction.edit agree cut_le

/-- At any point of a run a memo answers as an empty one does. -/
theorem ask_eq_ask_empty
    {first lines : List Text}
    {memo : Memo}
    (reached : Reached first lines memo)
    (question : Question) :
    (memo.ask lines question).1 = (Memo.empty.ask lines question).1 := by
  rw [reached.coherent.ask_fst, (Memo.coherent_empty lines).ask_fst]

/--
The lines grow under a comment that an edit has opened, after they have
shrunk; the last cut is at a negative index.
-/
theorem ask_eq_ask_empty_sample :
    ∃ memo : Memo,
      memo.size = 2 ∧
        Reached (["a(", "b(", "c"].map Text.ofString)
          (["/*(", "b)", "c)*/(", "d"].map Text.ofString) memo ∧
        (memo.ask (["/*(", "b)", "c)*/(", "d"].map Text.ofString)
            (.column 3 .standard)).1 =
          (Memo.empty.ask (["/*(", "b)", "c)*/(", "d"].map Text.ofString)
            (.column 3 .standard)).1 ∧
        (memo.ask (["/*(", "b)", "c)*/(", "d"].map Text.ofString)
            (.column 3 .standard)).1 =
          .column 2 := by
  have opened :
      Reached (["a(", "b(", "c"].map Text.ofString)
        (["a(", "b(", "c"].map Text.ofString) _ :=
    .ask (.depth 2) .start
  have shrunk :
      Reached (["a(", "b(", "c"].map Text.ofString)
        (["a("].map Text.ofString) _ :=
    .ask (.placement (-1))
      (.ask (.column 7 .standard) (.edit _ 1 1 (by decide) (by decide) opened))
  have grown :
      Reached (["a(", "b(", "c"].map Text.ofString)
        (["/*(", "b)", "c)*/(", "d"].map Text.ofString) _ :=
    .ask (.code 2) (.edit _ 0 (-2) (by decide) (by decide) shrunk)
  exact ⟨_, by decide +kernel, grown, ask_eq_ask_empty grown _,
    by decide +kernel⟩

end ClauseEditor.Indent
