import ClauseEditor.Document.History
import ClauseEditor.Proofs.Document.Lines

/-!
# Replaying the history

Changes lead from one content to another if each of them fits the content
that the ones before it have made.  Their inverses, the latest first, lead
back.  Every content on the way agrees with the first up to the least
position of the changes.

A draft is from a content if its changes lead from there to what it holds and
its cursor stands inside; inserting and removing keep it so, and so does
making a list of changes that lead somewhere.
-/

namespace ClauseEditor.Document

/-! ## One change -/

namespace Change

variable {change : Change} {content : List CodeUnit}

theorem Fits.removed_le
    (fits : change.Fits content)
    (removes : change.kind = .removal) :
    change.position + change.units.length ≤ content.length := by
  have length := congrArg List.length (fits.2 removes)
  rw [List.length_take, List.length_drop] at length
  have inside := fits.1
  omega

theorem fits_insert
    {position : Nat}
    (inside : position ≤ content.length)
    (units : List CodeUnit) :
    (insert position units).Fits content :=
  ⟨inside, nofun⟩

/-- What stands between two positions is there to be removed. -/
theorem fits_remove
    (content : List CodeUnit)
    (first last : Nat)
    (keepsCursor : Bool)
    (nonempty : (remove content first last keepsCursor).units ≠ []) :
    (remove content first last keepsCursor).Fits content := by
  simp only [remove, ne_eq, List.drop_eq_nil_iff, List.length_take] at nonempty
  constructor
  · simp only [remove]
    omega
  · intro _
    simp only [remove, List.drop_take, List.length_take, List.length_drop]
    rw [List.take_eq_take_iff, List.length_drop]
    omega

/-- A change that was made can be taken back. -/
theorem Fits.inverse (fits : change.Fits content) :
    change.inverse.Fits (change.apply content) := by
  have removed := fits.removed_le
  have inside := fits.1
  rcases change with ⟨kind, position, units, keepsCursor⟩
  cases kind with
  | insertion =>
      have width : (content.take position).length = position :=
        List.length_take_of_le inside
      constructor
      · simp only [Change.inverse, apply, List.length_append, width]
        omega
      · intro _
        simp only [Change.inverse, apply]
        rw [List.append_assoc, List.drop_append_of_le_length (by omega),
          List.drop_eq_nil_of_le (by omega), List.nil_append,
          List.take_append_of_le_length (by omega), List.take_length]
  | removal =>
      have fitting := removed rfl
      constructor
      · simp only [Change.inverse, apply, List.length_append,
          List.length_take, List.length_drop] at fitting ⊢
        omega
      · intro removes
        cases removes

/-- A change leaves alone what stands before its position. -/
theorem Fits.take_apply
    (fits : change.Fits content)
    {position : Nat}
    (before : position ≤ change.position) :
    (change.apply content).take position = content.take position := by
  have inside := fits.1
  have width : position ≤ (content.take change.position).length := by
    rw [List.length_take]
    omega
  rw [apply]
  split
  · rw [List.append_assoc, List.take_append_of_le_length width,
      List.take_take, Nat.min_eq_left before]
  · rw [List.take_append_of_le_length width, List.take_take,
      Nat.min_eq_left before]

/-- A position inside the content goes to one inside the changed content. -/
theorem Fits.move_le
    (fits : change.Fits content)
    {position : Nat}
    (inside : position ≤ content.length) :
    change.move position ≤ (change.apply content).length := by
  have removed := fits.removed_le
  have within := fits.1
  rcases change with ⟨kind, start, units, keepsCursor⟩
  cases kind with
  | insertion =>
      simp only [move, apply, List.length_append, List.length_take,
        List.length_drop] at within ⊢
      split <;> omega
  | removal =>
      have fitting := removed rfl
      simp only [move, apply, List.length_append, List.length_take,
        List.length_drop] at within fitting ⊢
      split <;> omega

end Change

/-! ## Changes one after another -/

/-- Changes that can be made one after another lead to a content. -/
inductive Leads :
    List CodeUnit → List Change → List CodeUnit → Prop where
  | done {content : List CodeUnit} : Leads content [] content
  | step
      {before after : List CodeUnit}
      {change : Change}
      {changes : List Change}
      (fits : change.Fits before)
      (rest : Leads (change.apply before) changes after) :
      Leads before (change :: changes) after

namespace Leads

variable {before between after : List CodeUnit}

theorem eq_of_nil (leads : Leads before [] after) : after = before := by
  cases leads
  rfl

theorem append
    {first second : List Change}
    (left : Leads before first between)
    (right : Leads between second after) :
    Leads before (first ++ second) after := by
  induction left with
  | done => exact right
  | step fits rest induction => exact .step fits (induction right)

theorem single
    {change : Change}
    (fits : change.Fits before) :
    Leads before [change] (change.apply before) :=
  .step fits .done

/-- The inverses of the changes, the latest first, lead back. -/
theorem reverse
    {changes : List Change}
    (leads : Leads before changes after) :
    Leads after (changes.reverse.map Change.inverse) before := by
  induction leads with
  | done => exact .done
  | step fits rest induction =>
      rw [List.reverse_cons, List.map_append]
      refine induction.append ?_
      have back := single fits.inverse
      rwa [Change.apply_inverse fits] at back

/-- Nothing happens before the least position of the changes. -/
theorem take_eq
    {changes : List Change}
    (leads : Leads before changes after)
    {position : Nat}
    (behind : ∀ change ∈ changes, position ≤ change.position) :
    after.take position = before.take position := by
  induction leads with
  | done => rfl
  | step fits rest induction =>
      rw [induction fun change member =>
        behind change (List.mem_cons_of_mem _ member)]
      exact fits.take_apply (behind _ List.mem_cons_self)

end Leads

/-! ## Drafts -/

namespace Draft

/-- The draft is what an edit block on the content has come to. -/
structure IsFrom (content : List CodeUnit) (draft : Draft) : Prop where
  leads : Leads content draft.changes.reverse draft.content
  position_le : draft.cursor.position ≤ draft.content.length
  anchor_le : draft.cursor.anchor ≤ draft.content.length

namespace IsFrom

variable {content : List CodeUnit} {draft : Draft}

theorem start
    {cursor : Cursor}
    (position_le : cursor.position ≤ content.length)
    (anchor_le : cursor.anchor ≤ content.length) :
    (Draft.start content cursor).IsFrom content :=
  ⟨.done, position_le, anchor_le⟩

theorem apply
    (isFrom : draft.IsFrom content)
    {change : Change}
    (fits : change.units ≠ [] → change.Fits draft.content) :
    (draft.apply change).IsFrom content := by
  rw [Draft.apply]
  split
  · exact isFrom
  · rename_i nonempty
    have fits := fits nonempty
    constructor
    · rw [List.reverse_cons]
      exact isFrom.leads.append (.single fits)
    · exact fits.move_le isFrom.position_le
    · exact fits.move_le isFrom.anchor_le

theorem insert
    (isFrom : draft.IsFrom content)
    {position : Nat}
    (inside : position ≤ draft.content.length)
    (text : Text) :
    (draft.insert position text).IsFrom content :=
  isFrom.apply fun _ => Change.fits_insert inside _

theorem removeKeeping
    (isFrom : draft.IsFrom content)
    (first last : Nat)
    (keepsCursor : Bool) :
    (draft.apply
      (.remove draft.content first last keepsCursor)).IsFrom content :=
  isFrom.apply (Change.fits_remove draft.content first last keepsCursor)

theorem remove
    (isFrom : draft.IsFrom content)
    (first last : Nat) :
    (draft.remove first last).IsFrom content :=
  isFrom.removeKeeping first last false

theorem removeSelection (isFrom : draft.IsFrom content) :
    draft.removeSelection.IsFrom content :=
  isFrom.removeKeeping _ _ _

theorem type (isFrom : draft.IsFrom content) (text : Text) :
    (draft.type text).IsFrom content :=
  isFrom.removeSelection.insert isFrom.removeSelection.position_le text

end IsFrom

/-! ### What a draft holds -/

/-- A change with no units changes nothing, so it need not be made. -/
theorem content_apply (draft : Draft) (change : Change) :
    (draft.apply change).content = change.apply draft.content := by
  rw [apply]
  split
  · rename_i empty
    rw [Change.apply]
    split <;> simp [empty]
  · rfl

theorem content_insert (draft : Draft) (position : Nat) (text : Text) :
    (draft.insert position text).content =
      draft.content.take position ++ contentOf text ++
        draft.content.drop position := by
  rw [insert, content_apply]
  rfl

theorem content_removeKeeping
    (draft : Draft)
    {first last : Nat}
    (ordered : first ≤ last)
    (keepsCursor : Bool) :
    (draft.apply (.remove draft.content first last keepsCursor)).content =
      draft.content.take first ++ draft.content.drop last := by
  rw [content_apply, Change.apply]
  simp only [Change.remove, List.length_drop, List.length_take]
  by_cases inside : last ≤ draft.content.length
  · rw [Nat.min_eq_left inside, Nat.add_sub_cancel' ordered]
  · rw [List.drop_eq_nil_of_le (by omega), List.drop_eq_nil_of_le (by omega)]

theorem content_remove
    (draft : Draft)
    {first last : Nat}
    (ordered : first ≤ last) :
    (draft.remove first last).content =
      draft.content.take first ++ draft.content.drop last :=
  content_removeKeeping draft ordered false

/-- Text in the place of some units. -/
theorem content_replace
    (draft : Draft)
    {first : Nat}
    (inside : first ≤ draft.content.length)
    (width : Nat)
    (text : Text) :
    ((draft.remove first (first + width)).insert first text).content =
      draft.content.take first ++ contentOf text ++
        draft.content.drop (first + width) := by
  have length : (draft.content.take first).length = first :=
    List.length_take_of_le inside
  rw [content_insert, content_remove draft (Nat.le_add_right first width),
    List.take_append_of_le_length (Nat.le_of_eq length.symm),
    List.drop_append_of_le_length (Nat.le_of_eq length.symm),
    List.drop_eq_nil_of_le (Nat.le_of_eq length), List.take_take,
    Nat.min_self, List.nil_append]

theorem IsFrom.replace
    {draft : Draft}
    {content : List CodeUnit}
    (isFrom : draft.IsFrom content)
    {first : Nat}
    (inside : first ≤ draft.content.length)
    (width : Nat)
    (text : Text) :
    ((draft.remove first (first + width)).insert first text).IsFrom
      content := by
  refine (isFrom.remove first (first + width)).insert ?_ text
  rw [content_remove draft (Nat.le_add_right first width),
    List.length_append, List.length_take_of_le inside]
  exact Nat.le_add_right first _

theorem settled_insert
    {draft : Draft}
    (settled : Settled draft.content)
    (position : Nat)
    (text : Text) :
    Settled (draft.insert position text).content := by
  rw [content_insert]
  have before := settled.sublist (List.take_sublist position draft.content)
  have behind := settled.sublist (List.drop_sublist position draft.content)
  exact (before.append (settled_contentOf text)).append behind

theorem settled_removeKeeping
    {draft : Draft}
    (settled : Settled draft.content)
    (first last : Nat)
    (keepsCursor : Bool) :
    Settled
      (draft.apply
        (.remove draft.content first last keepsCursor)).content := by
  rw [content_apply]
  exact (settled.sublist (List.take_sublist _ _)).append
    (settled.sublist (List.drop_sublist _ _))

theorem settled_remove
    {draft : Draft}
    (settled : Settled draft.content)
    (first last : Nat) :
    Settled (draft.remove first last).content :=
  settled_removeKeeping settled first last false

theorem settled_type
    {draft : Draft}
    (settled : Settled draft.content)
    (text : Text) :
    Settled (draft.type text).content :=
  settled_insert (settled_removeKeeping settled _ _ _) _ text

/-- Replaying changes that lead somewhere gets there. -/
theorem replay
    {draft : Draft}
    {content after : List CodeUnit}
    {changes : List Change}
    (isFrom : draft.IsFrom content)
    (leads : Leads draft.content changes after) :
    (changes.foldl apply draft).IsFrom content ∧
      (changes.foldl apply draft).content = after := by
  generalize held : draft.content = middle at leads
  induction leads generalizing draft with
  | done => exact ⟨isFrom, held⟩
  | step fits rest induction =>
      subst held
      exact induction (isFrom.apply fun _ => fits) (content_apply _ _)

/-- The content up to the first change is what it was. -/
theorem IsFrom.take_eq
    {draft : Draft}
    {content : List CodeUnit}
    (isFrom : draft.IsFrom content)
    {position : Nat}
    (behind : ∀ change ∈ draft.changes, position ≤ change.position) :
    draft.content.take position = content.take position :=
  isFrom.leads.take_eq fun change member =>
    behind change (List.mem_reverse.mp member)

end Draft

theorem firstChanged?_eq_none_iff {changes : List Change} :
    firstChanged? changes = none ↔ changes = [] := by
  simp [firstChanged?]

theorem le_position_of_firstChanged?
    {changes : List Change}
    {position : Nat}
    (first : firstChanged? changes = some position) :
    ∀ change ∈ changes, position ≤ change.position := by
  intro change member
  have listed : change.position ∈ changes.map Change.position :=
    List.mem_map_of_mem member
  exact (List.min?_eq_some_iff.mp first).2 _ listed

end ClauseEditor.Document
