import ClauseEditor.Proofs.Indent.Coherence
import ClauseEditor.Proofs.Indent.Reading

/-!
# Brackets that are open in front of a line

The depth in front of a line is the number of brackets that are open there.
Only brackets among the characters of code count, over all the lines above.

The brackets that some code leaves open are a stack with the nearest one on
top.  An opening bracket goes onto it.  A closing bracket of whatever kind
cancels the nearest bracket that is still open, or nothing if there is none.
-/

namespace ClauseEditor

namespace Scallop

/-- The characters of code of lines, the first of which may start in a comment. -/
def codeOfLines (inComment : Bool) : List Text → Text
  | [] => []
  | line :: lines =>
    codeCharacters (lexemes inComment line) ++
      codeOfLines (leavesCommentOpen (lexemes inComment line)) lines

/-- Whether a block comment is open after lines. -/
def commentOpenAfter (inComment : Bool) : List Text → Bool
  | [] => inComment
  | line :: lines =>
    commentOpenAfter (leavesCommentOpen (lexemes inComment line)) lines

/-- The open brackets, the nearest one first, after one character more. -/
def cancel (unclosed : List CodePoint) (c : CodePoint) : List CodePoint :=
  if c ∈ openBrackets then c :: unclosed
  else if c ∈ closeBrackets then unclosed.tail
  else unclosed

/-- The brackets that some code leaves open, the nearest one first. -/
def unclosedBrackets (code : Text) : List CodePoint :=
  code.foldl cancel []

end Scallop

namespace Indent

open ClauseEditor.Scallop

theorem length_cancel (unclosed : List CodePoint) (c : CodePoint) :
    ((cancel unclosed c).length : Int) = depthAfter unclosed.length c := by
  rw [cancel, depthAfter]
  by_cases opens : c ∈ openBrackets
  · simp [opens]
  · by_cases closes : c ∈ closeBrackets
    · cases unclosed with
      | nil => simp [opens, closes]
      | cons nearest others => simp [opens, closes]
    · simp [opens, closes]

/-- The depth counts the brackets on the stack. -/
theorem length_foldl_cancel (unclosed : List CodePoint) (code : Text) :
    ((code.foldl cancel unclosed).length : Int) =
      code.foldl depthAfter unclosed.length := by
  induction code generalizing unclosed with
  | nil => rfl
  | cons c code induction =>
      rw [List.foldl_cons, List.foldl_cons, induction, length_cancel]

theorem after_eq (boundary : Boundary) (line : Text) :
    boundary.after line =
      ⟨(codeCharacters (lexemes boundary.inComment line)).foldl depthAfter
          boundary.depth,
        leavesCommentOpen (lexemes boundary.inComment line)⟩ := by
  rw [Boundary.after, scan_eq]
  rfl

/-- The boundary after some lines, by the lexemes of the lines. -/
theorem foldl_after_eq (boundary : Boundary) (lines : List Text) :
    lines.foldl Boundary.after boundary =
      ⟨(codeOfLines boundary.inComment lines).foldl depthAfter boundary.depth,
        commentOpenAfter boundary.inComment lines⟩ := by
  induction lines generalizing boundary with
  | nil => rfl
  | cons line lines induction =>
      rw [List.foldl_cons, induction, after_eq, codeOfLines,
        commentOpenAfter, List.foldl_append]

/--
The depth of a line is the number of brackets that the code of the lines above
it leaves open.  A negative number of a line stands for the first line, and one
past the end for the end.
-/
theorem depthAt_empty_eq_length_unclosedBrackets
    (lines : List Text)
    (index : Int) :
    (Memo.empty.depthAt lines index).1 =
      (unclosedBrackets
        (codeOfLines false (lines.take index.toNat))).length := by
  have coherent := Memo.coherent_empty lines
  have answer :=
    Memo.depthAt_fst (Memo.coherent_iff.mp coherent lines.length)
      (Memo.clampIndex_le lines index)
  have cut :
      lines.take (Memo.clampIndex lines index) =
        lines.take index.toNat :=
    List.take_eq_take_min.symm
  rw [answer, boundaryAt, cut, foldl_after_eq, unclosedBrackets,
    length_foldl_cancel]
  rfl

end Indent

end ClauseEditor
