import ClauseEditor.Text.LowerCase

/-!
# Lower case and characters without case

Nothing but itself becomes a character that comes before the small letters in
lower case: signs, digits and capital letters are not the lower case form of
any other character.

The form of a sigma depends on the characters around it.  A character that
casing does not look through and that has no case is like the start of the
text to what follows it.
-/

namespace ClauseEditor

namespace CodePoint

theorem le_val_ofNat
    {bound n : Nat}
    (small : bound ≤ 0xFFFD)
    (le : bound ≤ n) :
    bound ≤ (ofNat n).val := by
  rw [ofNat]
  split
  · exact le
  · exact small

/-- No capital letter has a form that comes before the small letters. -/
theorem le_val_of_covers
    {run : CaseRun}
    (listed : run ∈ lowerRuns)
    {c : CodePoint}
    (covered : run.covers c = true) :
    'a'.toNat ≤ (ofNat (c.val + run.shift).toNat).val := by
  have starts : ∀ run ∈ lowerRuns, ('a'.toNat : Int) ≤ run.first + run.shift := by
    decide +kernel
  have start := starts run listed
  simp only [CaseRun.covers, Bool.and_eq_true, decide_eq_true_eq] at covered
  apply le_val_ofNat (by decide)
  omega

theorem eq_of_mem_lower
    {c form : CodePoint}
    (member : form ∈ c.lower)
    (early : form.val < 'a'.toNat) :
    form = c := by
  rw [lower] at member
  split at member
  · have late :
        ∀ form ∈ [ofNat 0x69, ofNat 0x307], 'a'.toNat ≤ form.val := by
      decide
    exact absurd (late form member) (Nat.not_le.mpr early)
  · split at member
    · rename_i run found
      have covered := List.find?_some found
      have late := le_val_of_covers (List.mem_of_find?_eq_some found) covered
      rw [← List.mem_singleton.mp member] at late
      exact absurd late (Nat.not_le.mpr early)
    · exact List.mem_singleton.mp member

end CodePoint

namespace Text

theorem mem_of_mem_lowerAfter
    {before text : Text}
    {c : CodePoint}
    (member : c ∈ lowerAfter before text)
    (early : c.val < 'a'.toNat) :
    c ∈ text := by
  induction text generalizing before with
  | nil => exact member
  | cons first text induction =>
      rw [lowerAfter] at member
      rcases List.mem_append.mp member with inForm | behind
      · have late :
            ∀ form ∈ [CodePoint.ofNat 0x3C2, CodePoint.ofNat 0x3C3],
              'a'.toNat ≤ form.val := by
          decide
        split at inForm
        · refine absurd (late c ?_) (Nat.not_le.mpr early)
          split at inForm <;> simp_all
        · rw [CodePoint.eq_of_mem_lower inForm early]
          exact List.mem_cons_self
      · exact List.mem_cons_of_mem _ (induction behind)

/-- A sign or a digit of a text in lower case is one of the text. -/
theorem mem_of_mem_lower
    {text : Text}
    {c : CodePoint}
    (member : c ∈ lower text)
    (early : c.val < 'a'.toNat) :
    c ∈ text :=
  mem_of_mem_lowerAfter member early

section Uncased

variable
    {c : CodePoint}
    (seen : c.isCaseIgnorable = false)
    (uncased : c.isCased = false)

include seen uncased

theorem meetsCased_concat (before : Text) :
    meetsCased (before ++ [c]) = meetsCased before := by
  rw [meetsCased, meetsCased, List.find?_append]
  cases before.find? fun other => !other.isCaseIgnorable with
  | some other => rfl
  | none => simp [seen, uncased]

theorem lowerAfter_concat (before text : Text) :
    lowerAfter (before ++ [c]) text = lowerAfter before text := by
  induction text generalizing before with
  | nil => rfl
  | cons first text induction =>
      rw [lowerAfter, lowerAfter, meetsCased_concat seen uncased,
        ← List.cons_append, induction]

/-- A character without case may stand in front, if it stays as it is. -/
theorem lower_cons
    (same : c.lower = [c])
    (text : Text) :
    lower (c :: text) = c :: lower text := by
  have notSigma : c.val ≠ 0x3A3 := by
    intro value
    have sigma : c = CodePoint.ofNat 0x3A3 :=
      CodePoint.ext (value.trans (by decide))
    rw [sigma] at uncased
    exact absurd uncased (by decide +kernel)
  have start := lowerAfter_concat seen uncased [] text
  rw [lower, lowerAfter, if_neg notSigma, same]
  exact congrArg (c :: ·) start

end Uncased

end Text

end ClauseEditor
