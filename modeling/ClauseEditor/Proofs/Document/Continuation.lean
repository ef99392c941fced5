import ClauseEditor.Proofs.Document.Replay

/-!
# What changes that go on come to

The single change that two come to fits where the earlier of the two fits, and
it makes of the content what the two make of it one after the other.  So a step
that is gone on with leads from the content before it to the content after the
change, and a document records the changes of a draft either in a step of their
own or in the latest one, which leads further then.
-/

namespace ClauseEditor.Document

namespace Change

variable {earlier later whole : Change} {content : List CodeUnit}

/-! ## Two changes that come to one -/

theorem apply_insertion
    (front units back : List CodeUnit)
    (keepsCursor : Bool) :
    apply ⟨.insertion, front.length, units, keepsCursor⟩ (front ++ back) =
      front ++ (units ++ back) := by
  simp [apply]

theorem apply_removal
    (front units back : List CodeUnit)
    (keepsCursor : Bool) :
    apply ⟨.removal, front.length, units, keepsCursor⟩
        (front ++ (units ++ back)) =
      front ++ back := by
  simp [apply, List.drop_append]

/-- What a removal takes out stands at its position. -/
theorem fits_removal_iff
    {position : Nat}
    {units : List CodeUnit}
    {keepsCursor : Bool} :
    Fits ⟨.removal, position, units, keepsCursor⟩ content ↔
      ∃ front back,
        front.length = position ∧ content = front ++ (units ++ back) := by
  constructor
  · rintro ⟨inside, present⟩
    have present :
        (content.drop position).take units.length = units :=
      present rfl
    refine ⟨content.take position, (content.drop position).drop units.length,
      List.length_take_of_le inside, ?_⟩
    calc
      content = content.take position ++ content.drop position :=
        (List.take_append_drop _ _).symm
      _ = content.take position ++
          ((content.drop position).take units.length ++
            (content.drop position).drop units.length) :=
        congrArg _ (List.take_append_drop _ _).symm
      _ = _ := by rw [present]
  · rintro ⟨front, back, rfl, rfl⟩
    exact ⟨by simp, fun _ => by simp⟩

/-- Typing on comes to one insertion. -/
theorem apply_insertion_append
    (front first second back : List CodeUnit)
    (keepsFirst keepsSecond : Bool) :
    apply ⟨.insertion, front.length, first ++ second, keepsFirst⟩
        (front ++ back) =
      apply ⟨.insertion, front.length + first.length, second, keepsSecond⟩
        (apply ⟨.insertion, front.length, first, keepsFirst⟩
          (front ++ back)) := by
  have later :=
    apply_insertion (front ++ first) second back keepsSecond
  rw [List.length_append, List.append_assoc, List.append_assoc] at later
  rw [apply_insertion, apply_insertion, later, List.append_assoc]

/-- Two changes come to what their single change does. -/
theorem Fits.continued
    (first : earlier.Fits content)
    (second : later.Fits (earlier.apply content))
    {old new : List Nat}
    (goesOn : earlier.continued? later old new = some whole) :
    whole.Fits content ∧
      whole.apply content = later.apply (earlier.apply content) := by
  rw [continued?] at goesOn
  split at goesOn
  · cases goesOn
  rcases earlier with ⟨kind, position, units, keeps⟩
  rcases later with ⟨laterKind, laterPosition, laterUnits, laterKeeps⟩
  cases kind <;> cases laterKind <;> dsimp only at goesOn
  case insertion.insertion =>
    split at goesOn
    · rename_i behind
      cases goesOn
      rcases behind with ⟨rfl, _⟩
      have width : (content.take position).length = position :=
        List.length_take_of_le first.1
      refine ⟨⟨first.1, nofun⟩, ?_⟩
      have same :=
        apply_insertion_append (content.take position) units laterUnits
          (content.drop position) keeps laterKeeps
      rwa [width, List.take_append_drop] at same
    · cases goesOn
  case removal.removal =>
    obtain ⟨front, back, rfl, rfl⟩ := fits_removal_iff.mp first
    rw [apply_removal] at second ⊢
    obtain ⟨laterFront, laterBack, rfl, parted⟩ := fits_removal_iff.mp second
    rw [parted, apply_removal]
    split at goesOn
    · rename_i same
      cases goesOn
      rcases List.append_inj parted same.1.symm with ⟨rfl, rfl⟩
      rw [← List.append_assoc units]
      exact ⟨fits_removal_iff.mpr ⟨_, _, rfl, rfl⟩, apply_removal _ _ _ _⟩
    · split at goesOn
      · rename_i same
        cases goesOn
        rw [← List.append_assoc] at parted
        have width : (laterFront ++ laterUnits).length = front.length := by
          rw [List.length_append]
          exact same.1
        rcases List.append_inj parted.symm width with ⟨rfl, rfl⟩
        rw [List.append_assoc laterFront, ← List.append_assoc laterUnits]
        exact ⟨fits_removal_iff.mpr ⟨_, _, rfl, rfl⟩, apply_removal _ _ _ _⟩
      · cases goesOn
  all_goals cases goesOn

end Change

/-! ## Steps that are gone on with -/

/-- Changes one after another can be parted anywhere. -/
theorem Leads.part
    {before after : List CodeUnit}
    {first second : List Change}
    (leads : Leads before (first ++ second) after) :
    ∃ between, Leads before first between ∧ Leads between second after := by
  induction first generalizing before with
  | nil => exact ⟨before, .done, leads⟩
  | cons change first induction =>
      cases leads with
      | step fits rest =>
          rcases induction rest with ⟨between, reached, onwards⟩
          exact ⟨between, .step fits reached, onwards⟩

theorem Leads.fits
    {before after : List CodeUnit}
    {change : Change}
    (leads : Leads before [change] after) :
    change.Fits before ∧ after = change.apply before := by
  cases leads with
  | step fits rest => exact ⟨fits, rest.eq_of_nil⟩

theorem Step.cursorBefore_continued
    {step next : Step}
    {change : Change}
    {numbering : Numbering}
    {written : Nat}
    (goesOn : step.continued? change numbering written = some next) :
    next.cursorBefore = step.cursorBefore := by
  rw [continued?] at goesOn
  split at goesOn
  · cases goesOn
  · split at goesOn
    · cases goesOn
    · rcases Option.map_eq_some_iff.mp goesOn with ⟨whole, joined, rfl⟩
      rfl

/-- A step leads as far as the change with which it goes on. -/
theorem Step.leads_continued
    {step next : Step}
    {change : Change}
    {numbering : Numbering}
    {written : Nat}
    {before content after : List CodeUnit}
    (goesOn : step.continued? change numbering written = some next)
    (leads : Leads before step.changes content)
    (single : Leads content [change] after) :
    Leads before next.changes after := by
  rw [continued?] at goesOn
  cases latest : step.changes.getLast? with
  | none =>
      rw [latest] at goesOn
      cases goesOn
  | some last =>
      obtain ⟨others, ends⟩ := List.getLast?_eq_some_iff.mp latest
      rw [latest] at goesOn
      dsimp only at goesOn
      split at goesOn
      · cases goesOn
      · rcases Option.map_eq_some_iff.mp goesOn with ⟨whole, joined, rfl⟩
        rw [ends] at leads joined ⊢
        rw [List.dropLast_concat] at joined ⊢
        rcases leads.part with ⟨between, reached, lastly⟩
        rcases lastly.fits with ⟨first, rfl⟩
        rcases single.fits with ⟨second, rfl⟩
        rcases first.continued second joined with ⟨fits, same⟩
        rw [← same]
        exact reached.append (.single fits)

/-! ## How changes are recorded -/

/--
The past of a document after some changes: they are the latest step, or the
step that was the latest leads further than before.
-/
inductive Records
    (document : Document)
    (after : List CodeUnit)
    (span : Span) :
    List Step → Prop where
  | added
      {step : Step}
      (leads : Leads document.content step.changes after)
      (began : ∀ position ∈ step.cursorBefore, position ∈ span.cursor?) :
      Records document after span (step :: document.past)
  | continued
      {step next : Step}
      {past : List Step}
      (latest : document.past = step :: past)
      (modified : document.isModified = true)
      (began : next.cursorBefore = step.cursorBefore)
      (leads :
        ∀ before,
          Leads before step.changes document.content →
            Leads before next.changes after) :
      Records document after span (next :: past)

section Commit

variable {document : Document} {draft : Draft}

theorem records_newStep
    (isFrom : draft.IsFrom document.content)
    (span : Span) :
    document.Records draft.content span
      (document.newStep draft.changes.reverse span :: document.past) :=
  .added isFrom.leads fun _ began => (Option.mem_filter_iff.mp began).1

theorem records_pastWith
    (isFrom : draft.IsFrom document.content)
    (span : Span) :
    document.Records draft.content span
      (document.pastWith draft.changes.reverse span) := by
  unfold pastWith
  split
  · rename_i change single
    have leads := isFrom.leads
    rw [single] at leads
    cases goesOn : document.continuedPast? change with
    | none => exact records_newStep isFrom .single
    | some past =>
        rw [continuedPast?] at goesOn
        split at goesOn
        · cases goesOn
        · rename_i step steps latest
          split at goesOn
          · rename_i modified
            rcases Option.map_eq_some_iff.mp goesOn with ⟨next, found, rfl⟩
            exact .continued latest modified
              (Step.cursorBefore_continued found)
              fun before reached => Step.leads_continued found reached leads
          · cases goesOn
  · exact records_newStep isFrom _

/-- A draft without changes leaves no trace. -/
theorem commit_of_changes_eq_nil
    (unchanged : draft.changes = [])
    (span : Span) :
    document.commit draft span = document :=
  if_pos unchanged

theorem content_commit
    (isFrom : draft.IsFrom document.content)
    (span : Span) :
    (document.commit draft span).content = draft.content := by
  rw [commit]
  split
  · rename_i unchanged
    have leads := isFrom.leads
    rw [unchanged, List.reverse_nil] at leads
    exact leads.eq_of_nil.symm
  · rfl

/-- A draft with changes is recorded, and nothing can be made again then. -/
theorem commit_of_changes_ne_nil
    (isFrom : draft.IsFrom document.content)
    (changed : draft.changes ≠ [])
    (span : Span) :
    (document.commit draft span).content = draft.content ∧
      (document.commit draft span).future = [] ∧
      (document.commit draft span).saved =
        document.saved.filter (· ≤ document.past.length) ∧
      document.Records draft.content span
        (document.commit draft span).past := by
  rw [commit, if_neg changed]
  exact ⟨rfl, rfl, rfl, records_pastWith isFrom span⟩

/-- An edit block with changes is a step of its own. -/
theorem commit_block_of_changes_ne_nil
    (isFrom : draft.IsFrom document.content)
    (changed : draft.changes ≠ [])
    (cursor? : Option Nat) :
    ∃ step,
      (document.commit draft (.block cursor?)).content = draft.content ∧
        (document.commit draft (.block cursor?)).past =
          step :: document.past ∧
        Leads document.content step.changes draft.content := by
  rw [commit, if_neg changed]
  exact ⟨_, rfl, rfl, isFrom.leads⟩

end Commit

end ClauseEditor.Document
