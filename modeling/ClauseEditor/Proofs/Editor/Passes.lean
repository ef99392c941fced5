import ClauseEditor.Proofs.Editor.Alignment

/-!
# Passes over the lines of a document

A reindenting is sound if its draft comes from the content that the edit block
began with and its memo is coherent with the lines as the draft holds them.
The memo may have been filled long before the edit block, and it is not cut
back while the pass goes on; still every step keeps it coherent, because
neither a margin nor the emptying of a blank line has an effect on the
boundaries that it remembers.

So a step of a pass does to the texts of the lines what `tidiedOne` does, and a
pass over several lines what `tidiedAt` does.
-/

namespace ClauseEditor.Editor.Reindenting

open Document
open ClauseEditor.Indent

/-- The texts of the lines as the draft holds them. -/
abbrev texts (reindenting : Reindenting) : List Text :=
  textsOf reindenting.draft.content

theorem lineText_eq (reindenting : Reindenting) (line : Nat) :
    reindenting.lineText line = reindenting.texts.getD line [] := rfl

/-- The reindenting belongs to an edit block on the content. -/
structure Sound
    (content : List CodeUnit)
    (reindenting : Reindenting) :
    Prop where
  isFrom : reindenting.draft.IsFrom content
  settled : Settled reindenting.draft.content
  coherent : reindenting.memo.Coherent reindenting.texts

section Step

variable
    {content : List CodeUnit}
    {reindenting : Reindenting}
    {style : Style}
    {line : Nat}

theorem alike_placed
    (reindenting : Reindenting)
    (style : Style)
    (line column : Nat) :
    Alike (reindenting.texts.getD line [])
      (reindenting.placed style line column).line :=
  .aligned style.tabWidth (reindenting.lineText line) column _

theorem Sound.alignLine
    (sound : reindenting.Sound content)
    (present : line < reindenting.texts.length)
    (style : Style)
    (column : Nat) :
    (reindenting.alignLine style line column).1.Sound content := by
  rw [length_textsOf] at present
  refine
    ⟨alignLine_isFrom present sound.isFrom,
      alignLine_settled sound.settled, ?_⟩
  have asked := coherent_columnOf sound.coherent line style
  rw [texts, alignLine_texts present, alignLine_memo]
  exact asked.of_alike
    (.set reindenting.texts line (alike_placed reindenting style line column))

/-- A sound reindenting moves a line to its column. -/
theorem Sound.placed_eq
    (sound : reindenting.Sound content)
    (style : Style)
    (line column : Nat) :
    reindenting.placed style line column =
      aligned style.tabWidth (reindenting.lineText line) column
        (columnIn style reindenting.texts line) := by
  rw [placed, columnOf_of_coherent sound.coherent]

theorem emptied_of_settled
    (settled : Settled reindenting.draft.content)
    (present : line < reindenting.texts.length) :
    emptied (reindenting.lineText line) = [] := by
  have listed : reindenting.lineText line ∈ reindenting.texts := by
    rw [lineText_eq, List.getD_eq_getElem _ _ present]
    exact List.getElem_mem present
  have absent : CodePoint.ofChar '\r' ∉ reindenting.lineText line :=
    settled.notMem_textsOf listed (Or.inr rfl)
  rw [emptied, if_neg]
  intro last
  exact absent (List.mem_of_getLast? last)

theorem tidiedOne_texts
    (reindenting : Reindenting)
    (style : Style)
    (line : Nat) :
    tidiedOne style reindenting.texts line =
      reindenting.texts.set line
        (tidied style (columnIn style reindenting.texts line)
          (reindenting.lineText line)) := rfl

/-- A step of the pass tidies one line. -/
theorem Sound.tidyLine_texts
    (sound : reindenting.Sound content)
    (present : line < reindenting.texts.length)
    (style : Style) :
    (reindenting.tidyLine style line).texts =
      tidiedOne style reindenting.texts line := by
  have inside : line < (linesOf reindenting.draft.content).length := by
    rwa [length_textsOf] at present
  rw [tidyLine]
  dsimp only
  by_cases isBlank : Text.isBlank (reindenting.lineText line) = true
  · have units :
        Utf16.encode (reindenting.lineText line) =
          (linesOf reindenting.draft.content)[line] := by
      rw [Reindenting.lineText, getD_textsOf inside, Utf16.encode_decode]
    have emptied := emptied_of_settled sound.settled present
    have removed :=
      textsOf_replaceFront inside (Nat.le_refl _) (List.not_mem_nil)
    rw [List.append_nil, List.nil_append, List.drop_length] at removed
    rw [texts, if_pos isBlank, units,
      Draft.content_remove _ (Nat.le_add_right _ _), removed,
      tidiedOne_texts, tidied, if_pos isBlank, emptied]
    rfl
  · rw [texts, if_neg isBlank, alignLine_texts inside, sound.placed_eq,
      tidiedOne_texts, tidied, if_neg isBlank]
    rfl

theorem Sound.tidyLine
    (sound : reindenting.Sound content)
    (present : line < reindenting.texts.length)
    (style : Style) :
    (reindenting.tidyLine style line).Sound content := by
  by_cases isBlank : Text.isBlank (reindenting.lineText line) = true
  · have changed := sound.tidyLine_texts present style
    rw [Reindenting.tidyLine] at changed ⊢
    simp only [isBlank, if_true] at changed ⊢
    refine
      ⟨sound.isFrom.remove _ _, Draft.settled_remove sound.settled _ _, ?_⟩
    rw [changed]
    exact sound.coherent.of_alike
      (linesAlike_tidiedOne style reindenting.texts line)
  · rw [Reindenting.tidyLine]
    simp only [isBlank]
    exact sound.alignLine present style 0

theorem Sound.alignContent
    (sound : reindenting.Sound content)
    (present : line < reindenting.texts.length)
    (style : Style) :
    (alignContent style reindenting line).Sound content := by
  rw [Reindenting.alignContent]
  split
  · exact sound
  · exact sound.alignLine present style 0

theorem alignContent_length
    (present : line < reindenting.texts.length)
    (style : Style) :
    (alignContent style reindenting line).texts.length =
      reindenting.texts.length := by
  have inside : line < (linesOf reindenting.draft.content).length := by
    rwa [length_textsOf] at present
  rw [Reindenting.alignContent]
  split
  · rfl
  · rw [texts, alignLine_texts inside, List.length_set]

end Step

/-! ## Several lines -/

/-- Moving lines that are there keeps a reindenting sound. -/
theorem Sound.foldl_alignContent
    {content : List CodeUnit}
    {reindenting : Reindenting}
    (sound : reindenting.Sound content)
    (style : Style)
    {numbers : List Nat}
    (present : ∀ line ∈ numbers, line < reindenting.texts.length) :
    (numbers.foldl (Reindenting.alignContent style) reindenting).Sound
      content := by
  induction numbers generalizing reindenting with
  | nil => exact sound
  | cons line numbers induction =>
      have first := present line List.mem_cons_self
      refine induction (sound.alignContent first style) ?_
      intro other member
      rw [alignContent_length first style]
      exact present other (List.mem_cons_of_mem line member)

section Tidy

variable
    {content : List CodeUnit}
    {reindenting : Reindenting}
    {style : Style}
    {line : Nat}
    {numbers : List Nat}

/-- The lines that are still to be tidied stay where they are. -/
theorem Sound.present_tidyLine
    (sound : reindenting.Sound content)
    (present : ∀ other ∈ line :: numbers, other < reindenting.texts.length) :
    ∀ other ∈ numbers,
      other < (reindenting.tidyLine style line).texts.length := by
  intro other member
  rw [sound.tidyLine_texts (present line List.mem_cons_self),
    length_tidiedOne]
  exact present other (List.mem_cons_of_mem line member)

/-- The pass over some lines tidies these and stays sound. -/
theorem Sound.tidyLines
    (sound : reindenting.Sound content)
    (style : Style)
    (present : ∀ line ∈ numbers, line < reindenting.texts.length) :
    (reindenting.tidyLines style numbers).1.Sound content ∧
      (reindenting.tidyLines style numbers).1.texts =
        tidiedAt style reindenting.texts numbers := by
  induction numbers generalizing reindenting with
  | nil => exact ⟨sound, (tidiedAt_nil style reindenting.texts).symm⟩
  | cons line numbers induction =>
      have first := present line List.mem_cons_self
      have changed := sound.tidyLine_texts first style
      rcases induction (sound.tidyLine first style)
        (sound.present_tidyLine present) with ⟨kept, tidy⟩
      constructor
      · exact kept
      · rw [← tidiedAt_tidiedOne, ← changed]
        exact tidy

/-- The pass counts the lines that it changes. -/
theorem Sound.tidyLines_count
    (sound : reindenting.Sound content)
    (style : Style)
    (present : ∀ line ∈ numbers, line < reindenting.texts.length)
    (distinct : numbers.Nodup) :
    (reindenting.tidyLines style numbers).2 =
      numbers.countP fun line =>
        (tidiedAt style reindenting.texts numbers).getD line [] ≠
          reindenting.texts.getD line [] := by
  induction numbers generalizing reindenting with
  | nil => rfl
  | cons line numbers induction =>
      have first := present line List.mem_cons_self
      have changed := sound.tidyLine_texts first style
      rcases List.nodup_cons.mp distinct with ⟨fresh, distinct⟩
      have rest :=
        induction (sound.tidyLine first style)
          (sound.present_tidyLine present) distinct
      rw [changed] at rest
      rw [countP_tidiedAt_cons style reindenting.texts fresh, ← rest,
        ← changed]
      rfl

end Tidy

end ClauseEditor.Editor.Reindenting
