import ClauseEditor.Proofs.Text.Utf8
import ClauseEditor.Text.Newline

/-!
# Line ends of files that are read

Reading leaves no carriage return, puts in nothing but line feeds, and leaves
a text alone that holds no carriage return.  A text without surrogates stays
one.
-/

namespace ClauseEditor.Text

theorem withLineFeeds_of_notMem
    {text : Text}
    (plain : CodePoint.ofChar '\r' ∉ text) :
    text.withLineFeeds = text := by
  fun_induction withLineFeeds text with
  | case1 => rfl
  | case2 => exact absurd List.mem_cons_self plain
  | case3 => rfl
  | case4 => exact absurd List.mem_cons_self plain
  | case5 => exact absurd List.mem_cons_self plain
  | case6 c next rest _ induction =>
      rw [induction fun member => plain (List.mem_cons_of_mem c member)]

theorem notMem_withLineFeeds (text : Text) :
    CodePoint.ofChar '\r' ∉ text.withLineFeeds := by
  fun_induction withLineFeeds text with
  | case1 => exact List.not_mem_nil
  | case2 => decide
  | case3 c plain => simpa using Ne.symm plain
  | case4 rest induction =>
      rw [List.mem_cons, not_or]
      exact ⟨by decide, induction⟩
  | case5 next rest _ induction =>
      rw [List.mem_cons, not_or]
      exact ⟨by decide, induction⟩
  | case6 c next rest plain induction =>
      rw [List.mem_cons, not_or]
      exact ⟨Ne.symm plain, induction⟩

theorem mem_of_mem_withLineFeeds
    {text : Text}
    {c : CodePoint}
    (member : c ∈ text.withLineFeeds) :
    c ∈ text ∨ c = '\n' := by
  fun_induction withLineFeeds text with
  | case1 => exact .inl member
  | case2 => exact .inr (List.mem_singleton.mp member)
  | case3 => exact .inl member
  | case4 rest induction =>
      rcases List.mem_cons.mp member with same | behind
      · exact .inr same
      · exact (induction behind).imp_left fun inside =>
          List.mem_cons_of_mem _ (List.mem_cons_of_mem _ inside)
  | case5 next rest _ induction =>
      rcases List.mem_cons.mp member with same | behind
      · exact .inr same
      · exact (induction behind).imp_left (List.mem_cons_of_mem _)
  | case6 other next rest _ induction =>
      rcases List.mem_cons.mp member with rfl | behind
      · exact .inl List.mem_cons_self
      · exact (induction behind).imp_left (List.mem_cons_of_mem other)

theorem isScalar_withLineFeeds
    {text : Text}
    (scalar : Utf8.IsScalar text) :
    Utf8.IsScalar text.withLineFeeds := by
  intro c member
  rcases mem_of_mem_withLineFeeds member with inside | rfl
  · exact scalar c inside
  · rfl

end ClauseEditor.Text
