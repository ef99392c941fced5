import ClauseEditor.Proofs.Document.Consistency

/-!
# The timeline of a document

Taking the latest step back leads to the content before it, wherever the
cursor stands, and making the step again leads to the content after it.  So
the steps of a history, those taken back included, run along a list of
contents, the timeline.  Undoing and redoing move the document along its
timeline and leave the timeline as it is; a new step cuts off what lies ahead
and adds one content, and a step that is gone on with puts its content in the
place of the present one.

The state that counts as saved is given by its number in the timeline.  Hence
a document that is not modified has the content that was saved, whatever was
undone, redone and edited in between.
-/

namespace ClauseEditor.Document

/-! ## Going along a step -/

/-- What changes lead to does not depend on the cursor. -/
theorem Draft.content_foldl_apply
    {draft : Draft}
    {after : List CodeUnit}
    {changes : List Change}
    (leads : Leads draft.content changes after) :
    (changes.foldl Draft.apply draft).content = after := by
  generalize held : draft.content = before at leads
  induction leads generalizing draft with
  | done => exact held
  | step fits rest induction =>
      subst held
      exact induction (Draft.content_apply _ _)

section Travel

variable
    {document : Document}
    {step : Step}
    {steps : List Step}
    {other : List CodeUnit}

/-- Undoing leads to the content before the latest step. -/
theorem undo?_eq
    (latest : document.past = step :: steps)
    (leads : Leads other step.changes document.content)
    (cursor : Cursor) :
    ∃ draft,
      document.undo? cursor =
        some
          ({ document with
              content := other
              past := steps
              future := step :: document.future },
            step, draft) := by
  have reached :=
    @Draft.content_foldl_apply (.start document.content cursor) other _
      leads.reverse
  rw [undo?, latest]
  dsimp only
  rw [reached]
  exact ⟨_, rfl⟩

/-- Redoing leads to the content after the step that was taken back last. -/
theorem redo?_eq
    (next : document.future = step :: steps)
    (leads : Leads document.content step.changes other)
    (cursor : Cursor) :
    ∃ draft,
      document.redo? cursor =
        some
          ({ document with
              content := other
              past := step :: document.past
              future := steps },
            step, draft) := by
  have reached :=
    @Draft.content_foldl_apply (.start document.content cursor) other _ leads
  rw [redo?, next]
  dsimp only
  rw [reached]
  exact ⟨_, rfl⟩

end Travel

/-! ## The timeline -/

/-- The contents that the steps of a history run along. -/
structure Timeline
    (document : Document)
    (contents : List (List CodeUnit)) :
    Prop where
  joins (number : Nat) (step : Step) :
    (document.past.reverse ++ document.future)[number]? = some step →
      ∃ before after,
        contents[number]? = some before ∧
          contents[number + 1]? = some after ∧
          Leads before step.changes after
  current : contents[document.past.length]? = some document.content

namespace Timeline

variable {document : Document} {contents : List (List CodeUnit)}

/-- The latest step leads to the content from the one before it. -/
theorem latest
    (timeline : document.Timeline contents)
    {step : Step}
    {past : List Step}
    (latest : document.past = step :: past) :
    ∃ before,
      contents[past.length]? = some before ∧
        Leads before step.changes document.content := by
  have here :
      (document.past.reverse ++ document.future)[past.length]? =
        some step := by
    rw [latest, List.reverse_cons, List.append_assoc,
      List.getElem?_append_right (Nat.le_of_eq List.length_reverse)]
    simp
  rcases timeline.joins _ _ here with ⟨before, after, found, reached, leads⟩
  have current := timeline.current
  rw [latest, List.length_cons, reached] at current
  cases current
  exact ⟨before, found, leads⟩

/-- The step that was taken back last leads on from the content. -/
theorem next
    (timeline : document.Timeline contents)
    {step : Step}
    {future : List Step}
    (next : document.future = step :: future) :
    ∃ after,
      contents[document.past.length + 1]? = some after ∧
        Leads document.content step.changes after := by
  have here :
      (document.past.reverse ++ document.future)[document.past.length]? =
        some step := by
    rw [next, List.getElem?_append_right (Nat.le_of_eq List.length_reverse)]
    simp
  rcases timeline.joins _ _ here with ⟨before, after, found, reached, leads⟩
  rw [timeline.current] at found
  cases found
  exact ⟨after, reached, leads⟩

theorem ofText (text : Text) :
    (ofText text).Timeline [contentOf text] where
  joins _ _ none := by cases none
  current := rfl

/-- The document before its latest step has the same timeline. -/
theorem back
    (timeline : document.Timeline contents)
    {step : Step}
    {past : List Step}
    (latest : document.past = step :: past) :
    ∃ before,
      Leads before step.changes document.content ∧
        Timeline
          { document with
            content := before
            past
            future := step :: document.future }
          contents := by
  rcases timeline.latest latest with ⟨before, found, leads⟩
  refine ⟨before, leads, ?_, found⟩
  have steps := timeline.joins
  rw [latest, List.reverse_cons, List.append_assoc] at steps
  exact steps

theorem undo
    (timeline : document.Timeline contents)
    {cursor : Cursor}
    {undone : Document}
    {step : Step}
    {draft : Draft}
    (back : document.undo? cursor = some (undone, step, draft)) :
    undone.Timeline contents ∧ undone.saved = document.saved := by
  cases past : document.past with
  | nil =>
      rw [undo?, past] at back
      cases back
  | cons step past' =>
      rcases timeline.back past with ⟨before, leads, along⟩
      rcases undo?_eq past leads cursor with ⟨_, same⟩
      rw [same] at back
      cases back
      exact ⟨along, rfl⟩

theorem redo
    (timeline : document.Timeline contents)
    {cursor : Cursor}
    {redone : Document}
    {step : Step}
    {draft : Draft}
    (forth : document.redo? cursor = some (redone, step, draft)) :
    redone.Timeline contents ∧ redone.saved = document.saved := by
  cases future : document.future with
  | nil =>
      rw [redo?, future] at forth
      cases forth
  | cons step future' =>
      rcases timeline.next future with ⟨after, found, leads⟩
      rcases redo?_eq future leads cursor with ⟨_, same⟩
      rw [same] at forth
      cases forth
      refine ⟨⟨?_, found⟩, rfl⟩
      have steps := timeline.joins
      rw [future] at steps
      simpa using steps

/-- A step cuts off what lies ahead and adds the content that it leads to. -/
theorem push
    (timeline : document.Timeline contents)
    {next : Document}
    {step : Step}
    (leads : Leads document.content step.changes next.content)
    (latest : next.past = step :: document.past)
    (forgotten : next.future = []) :
    next.Timeline
      (contents.take (document.past.length + 1) ++ [next.content]) := by
  have present : document.past.length < contents.length :=
    (List.getElem?_eq_some_iff.mp timeline.current).1
  have length :
      (contents.take (document.past.length + 1)).length =
        document.past.length + 1 :=
    List.length_take_of_le present
  have kept {number : Nat} (before : number ≤ document.past.length) :
      (contents.take (document.past.length + 1) ++ [next.content])[number]? =
        contents[number]? := by
    rw [List.getElem?_append_left (by omega),
      List.getElem?_take_of_lt (by omega)]
  have last :
      (contents.take (document.past.length + 1) ++ [next.content])[
          document.past.length + 1]? = some next.content := by
    rw [List.getElem?_append_right (Nat.le_of_eq length), length]
    simp
  constructor
  · intro number found listed
    rw [latest, forgotten, List.append_nil, List.reverse_cons] at listed
    rcases Nat.lt_trichotomy number document.past.length
      with before | here | behind
    · rw [List.getElem?_append_left (by simpa using before)] at listed
      have old :
          (document.past.reverse ++ document.future)[number]? =
            some found := by
        rwa [List.getElem?_append_left (by simpa using before)]
      rw [kept (Nat.le_of_lt before), kept before]
      exact timeline.joins number found old
    · rw [here, List.getElem?_append_right
        (Nat.le_of_eq List.length_reverse)] at listed
      simp only [List.length_reverse, Nat.sub_self, List.getElem?_cons_zero,
        Option.some.injEq] at listed
      subst listed
      rw [here, kept (Nat.le_refl _)]
      exact ⟨document.content, next.content, timeline.current, last, leads⟩
    · rw [List.getElem?_eq_none] at listed
      · cases listed
      · simpa using Nat.succ_le_of_lt behind
  · rw [latest, List.length_cons]
    exact last

/--
The changes of a draft leave the contents before the present one, and the
present one too unless the latest step goes on.
-/
theorem records
    (timeline : document.Timeline contents)
    {next : Document}
    {span : Span}
    (records : document.Records next.content span next.past)
    (forgotten : next.future = []) :
    ∃ count ≤ contents.length,
      next.Timeline (contents.take count ++ [next.content]) ∧
        ∀ number ≤ document.past.length,
          document.saved = some number → number < count := by
  have present : document.past.length < contents.length :=
    (List.getElem?_eq_some_iff.mp timeline.current).1
  generalize past : next.past = steps at records
  cases records with
  | added leads began =>
      exact ⟨document.past.length + 1, present,
        timeline.push leads past forgotten,
        fun _ within _ => Nat.lt_succ_of_le within⟩
  | @continued step grown earlier latest modified began leads =>
      -- The step is taken back and made again with what has been added to it.
      rcases timeline.back latest with ⟨before, reached, along⟩
      rw [latest, List.length_cons] at present
      refine ⟨_, Nat.le_of_lt present,
        along.push (leads before reached) past forgotten, ?_⟩
      intro number within recorded
      rw [latest, List.length_cons] at within
      have elsewhere : number ≠ earlier.length + 1 := by
        rintro rfl
        simp [isModified, recorded, latest] at modified
      exact Nat.lt_of_le_of_ne within elsewhere

end Timeline

/-! ## The saved state -/

/-- The state that counts as saved, if it can be reached, has the content. -/
def Saves (document : Document) (saved : List CodeUnit) : Prop :=
  ∃ contents,
    document.Timeline contents ∧
      ∀ number, document.saved = some number →
        contents[number]? = some saved

section Saves

variable {document : Document} {saved : List CodeUnit}

/-- A document that is not modified has the content that was saved. -/
theorem Saves.content_eq
    (saves : document.Saves saved)
    (unmodified : document.isModified = false) :
    document.content = saved := by
  rcases saves with ⟨contents, timeline, recorded⟩
  have here : document.saved = some document.past.length := by
    simpa [isModified] using unmodified
  have found := recorded _ here
  rw [timeline.current] at found
  exact Option.some.inj found

theorem saves_ofText (text : Text) :
    (Document.ofText text).Saves (contentOf text) := by
  refine ⟨_, .ofText text, ?_⟩
  rintro number ⟨⟩
  rfl

theorem Saves.markSaved (saves : document.Saves saved) :
    document.markSaved.Saves document.content := by
  rcases saves with ⟨contents, timeline, recorded⟩
  refine ⟨contents, ⟨timeline.joins, timeline.current⟩, ?_⟩
  rintro number ⟨⟩
  exact timeline.current

theorem Saves.commit
    (saves : document.Saves saved)
    {draft : Draft}
    (isFrom : draft.IsFrom document.content)
    (span : Span) :
    (document.commit draft span).Saves saved := by
  by_cases changed : draft.changes = []
  · rw [commit_of_changes_eq_nil changed]
    exact saves
  · rcases commit_of_changes_ne_nil isFrom changed span
      with ⟨held, forgotten, reachable, records⟩
    rcases saves with ⟨contents, timeline, recorded⟩
    rw [← held] at records
    rcases timeline.records records forgotten with
      ⟨count, within, along, before⟩
    refine ⟨_, along, ?_⟩
    intro number still
    rw [reachable] at still
    rcases Option.filter_eq_some_iff.mp still with ⟨was, inReach⟩
    have kept := before number (of_decide_eq_true inReach) was
    rw [List.getElem?_append_left
        (by rwa [List.length_take_of_le within]),
      List.getElem?_take_of_lt kept]
    exact recorded number was

theorem Saves.undo
    (saves : document.Saves saved)
    {cursor : Cursor}
    {undone : Document}
    {step : Step}
    {draft : Draft}
    (back : document.undo? cursor = some (undone, step, draft)) :
    undone.Saves saved := by
  rcases saves with ⟨contents, timeline, recorded⟩
  rcases timeline.undo back with ⟨along, same⟩
  exact ⟨contents, along, same ▸ recorded⟩

theorem Saves.redo
    (saves : document.Saves saved)
    {cursor : Cursor}
    {redone : Document}
    {step : Step}
    {draft : Draft}
    (forth : document.redo? cursor = some (redone, step, draft)) :
    redone.Saves saved := by
  rcases saves with ⟨contents, timeline, recorded⟩
  rcases timeline.redo forth with ⟨along, same⟩
  exact ⟨contents, along, same ▸ recorded⟩

end Saves

end ClauseEditor.Document
