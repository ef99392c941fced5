import ClauseEditor.Proofs.Document.Continuation

/-!
# Consistent documents

The past of a document is consistent with its content if its latest step
leads there, from a content with which the rest of the past is consistent;
the future likewise, the other way round.  Edits keep documents so.  Undoing
and redoing go along the steps, so they meet exactly the contents that were
there before, and they put the cursor inside them.
-/

namespace ClauseEditor.Document

/-- A step that was taken from one content to another. -/
structure Step.Joins
    (step : Step)
    (before after : List CodeUnit) :
    Prop where
  leads : Leads before step.changes after
  cursor_le : ∀ position ∈ step.cursorBefore, position ≤ before.length

/-- The steps, the latest first, lead to the content. -/
inductive PastOf : List CodeUnit → List Step → Prop where
  | start {content : List CodeUnit} (settled : Settled content) :
      PastOf content []
  | step
      {before after : List CodeUnit}
      {step : Step}
      {past : List Step}
      (joins : step.Joins before after)
      (settled : Settled after)
      (earlier : PastOf before past) :
      PastOf after (step :: past)

/-- The steps, the next one first, lead on from the content. -/
inductive FutureOf : List CodeUnit → List Step → Prop where
  | none {content : List CodeUnit} : FutureOf content []
  | step
      {before after : List CodeUnit}
      {step : Step}
      {future : List Step}
      (joins : step.Joins before after)
      (settled : Settled after)
      (later : FutureOf after future) :
      FutureOf before (step :: future)

theorem PastOf.settled
    {content : List CodeUnit}
    {past : List Step}
    (pastOf : PastOf content past) :
    Settled content := by
  cases pastOf with
  | start settled => exact settled
  | step joins settled earlier => exact settled

/-- The history of a document fits its content. -/
structure Consistent (document : Document) : Prop where
  past : PastOf document.content document.past
  future : FutureOf document.content document.future

theorem Consistent.settled
    {document : Document}
    (consistent : document.Consistent) :
    Settled document.content :=
  consistent.past.settled

theorem consistent_ofText (text : Text) : (ofText text).Consistent :=
  ⟨.start (settled_contentOf text), .none⟩

/-! ## Changes of a draft -/

section Commit

variable {document : Document} {draft : Draft} {span : Span}

/-- A past in which changes are recorded leads to the content after them. -/
theorem PastOf.records
    {after : List CodeUnit}
    {past : List Step}
    (pastOf : PastOf document.content document.past)
    (records : document.Records after span past)
    (settled : Settled after)
    (inside :
      ∀ position ∈ span.cursor?, position ≤ document.content.length) :
    PastOf after past := by
  cases records with
  | added leads began =>
      exact .step ⟨leads, fun position recorded =>
        inside position (began position recorded)⟩ settled pastOf
  | continued latest modified began leads =>
      rw [latest] at pastOf
      cases pastOf with
      | step joins _ earlier =>
          refine .step ⟨leads _ joins.leads, ?_⟩ settled earlier
          rw [began]
          exact joins.cursor_le

theorem Consistent.commit
    (consistent : document.Consistent)
    (isFrom : draft.IsFrom document.content)
    (settled : Settled draft.content)
    (inside :
      ∀ position ∈ span.cursor?, position ≤ document.content.length) :
    (document.commit draft span).Consistent := by
  by_cases changed : draft.changes = []
  · rw [commit_of_changes_eq_nil changed]
    exact consistent
  · rcases commit_of_changes_ne_nil isFrom changed span
      with ⟨held, forgotten, _, records⟩
    constructor
    · rw [held]
      exact consistent.past.records records settled inside
    · rw [forgotten]
      exact .none

end Commit

/-! ## Going back and forth -/

/-- Where a step of the history leads, and how a draft shows it. -/
structure Travels
    (document next : Document)
    (draft : Draft)
    (position : Nat) :
    Prop where
  consistent : next.Consistent
  isFrom : draft.IsFrom document.content
  content_eq : next.content = draft.content
  position_le : position ≤ next.content.length

theorem Leads.last
    {before after : List CodeUnit}
    {changes : List Change}
    (leads : Leads before changes after)
    {change : Change}
    (last : changes.getLast? = some change) :
    ∃ between : List CodeUnit,
      change.Fits between ∧ after = change.apply between := by
  induction leads with
  | done => simp at last
  | @step before after first changes fits rest induction =>
      cases changes with
      | nil =>
          cases rest
          cases last
          exact ⟨before, fits, rfl⟩
      | cons second others =>
          rw [List.getLast?_cons_cons] at last
          exact induction last

namespace Step.Joins

variable {step : Step} {before after : List CodeUnit}

theorem cursorAfterUndo_le (joins : step.Joins before after) :
    step.cursorAfterUndo ≤ before.length := by
  rcases step with ⟨changes, cursorBefore, isBlock, written⟩
  rcases joins with ⟨leads, cursor_le⟩
  cases cursorBefore with
  | some position => exact cursor_le position rfl
  | none =>
      cases leads with
      | done => exact Nat.zero_le _
      | @step _ _ change changes fits rest =>
          simp only [cursorAfterUndo, List.head?_cons]
          cases kind : change.kind with
          | insertion => exact fits.1
          | removal => exact fits.removed_le kind

theorem cursorAfterRedo_le (joins : step.Joins before after) :
    step.cursorAfterRedo ≤ after.length := by
  rw [cursorAfterRedo]
  cases last : step.changes.getLast? with
  | none => exact Nat.zero_le _
  | some change =>
      rcases joins.leads.last last with ⟨between, fits, rfl⟩
      have inside := fits.1
      dsimp only
      cases kind : change.kind with
      | insertion =>
          simp only [Change.apply, kind, List.length_append,
            List.length_take, List.length_drop]
          omega
      | removal =>
          simp only [Change.apply, kind, List.length_append,
            List.length_take]
          omega

end Step.Joins

namespace Consistent

variable
    {document next : Document}
    {step : Step}
    {draft : Draft}
    {cursor : Cursor}

/-- Undoing meets the content before the latest step. -/
theorem undo
    (consistent : document.Consistent)
    (position_le : cursor.position ≤ document.content.length)
    (anchor_le : cursor.anchor ≤ document.content.length)
    (undone : document.undo? cursor = some (next, step, draft)) :
    Travels document next draft step.cursorAfterUndo := by
  rcases document with ⟨content, past, future, saved, given, written⟩
  rcases consistent with ⟨pastOf, futureOf⟩
  cases pastOf with
  | start settled => simp [undo?] at undone
  | step joins settled earlier =>
      have began : (Draft.start content cursor).IsFrom content :=
        .start position_le anchor_le
      rcases Draft.replay began joins.leads.reverse with ⟨isFrom, reached⟩
      simp only [undo?, Option.some.injEq, Prod.mk.injEq] at undone
      rcases undone with ⟨rfl, rfl, rfl⟩
      constructor
      · constructor
        · rw [reached]
          exact earlier
        · rw [reached]
          exact .step joins settled futureOf
      · exact isFrom
      · rfl
      · rw [reached]
        exact joins.cursorAfterUndo_le

/-- Redoing meets the content after the step that was taken back last. -/
theorem redo
    (consistent : document.Consistent)
    (position_le : cursor.position ≤ document.content.length)
    (anchor_le : cursor.anchor ≤ document.content.length)
    (redone : document.redo? cursor = some (next, step, draft)) :
    Travels document next draft step.cursorAfterRedo := by
  rcases document with ⟨content, past, future, saved, given, written⟩
  rcases consistent with ⟨pastOf, futureOf⟩
  cases futureOf with
  | none => simp [redo?] at redone
  | step joins settled later =>
      have began : (Draft.start content cursor).IsFrom content :=
        .start position_le anchor_le
      rcases Draft.replay began joins.leads with ⟨isFrom, reached⟩
      simp only [redo?, Option.some.injEq, Prod.mk.injEq] at redone
      rcases redone with ⟨rfl, rfl, rfl⟩
      constructor
      · constructor
        · rw [reached]
          exact .step joins settled pastOf
        · rw [reached]
          exact later
      · exact isFrom
      · rfl
      · rw [reached]
        exact joins.cursorAfterRedo_le

end Consistent

end ClauseEditor.Document
