import ClauseEditor.Proofs.Editor.Pairing
import ClauseEditor.Proofs.Editor.Undoing

/-!
# One undo takes back what was typed

The first character that is typed into an unmodified document is a step of its
own, together with the removal of the selection if there is one.  Every further
character goes on with that step: it goes in right behind the last one, and
nothing has been written in between.  So whatever has been typed in one go is a
single step of the history.
-/

namespace ClauseEditor

namespace Document

/-! ## Steps that end with what was written last -/

/--
The last change of a step has put units in up to a position, and nothing has
been written into the document since.
-/
structure Step.EndsAt
    (step : Step)
    (position written : Nat) :
    Prop where
  inserted :
    ∃ others start units keepsCursor,
      step.changes = others ++ [⟨.insertion, start, units, keepsCursor⟩] ∧
        units ≠ [] ∧ separator ∉ units ∧ start + units.length = position
  written_eq : step.written + writtenBy step.changes = written

theorem Numbering.next_foldl_after
    (numbering : Numbering)
    (changes : List Change) :
    (changes.foldl Numbering.after numbering).next =
      numbering.next + writtenBy changes := by
  induction changes generalizing numbering with
  | nil => rfl
  | cons change changes induction =>
      have first :
          (numbering.after change).next = numbering.next + change.written := by
        rw [after]
        split <;> rfl
      rw [List.foldl_cons, induction, first, writtenBy, Nat.add_assoc]

/-- New units are numbered right behind those that were written last. -/
theorem Numbering.adjoin_range'
    (start : Nat)
    {count more : Nat}
    (some : count ≠ 0)
    (someMore : more ≠ 0) :
    adjoin (List.range' start count) (List.range' (start + count) more) =
      true := by
  rw [adjoin, List.getLast?_range', List.head?_range', if_neg some,
    if_neg someMore]
  apply decide_eq_true
  omega

/-- Units that go in right behind others come to one insertion with them. -/
theorem Change.continued?_insertion
    {units more : List CodeUnit}
    (clean : separator ∉ units)
    (whole : separator ∉ more)
    {old new : List Nat}
    (adjoined : Numbering.adjoin old new = true)
    (start : Nat)
    (keepsCursor : Bool) :
    continued? ⟨.insertion, start, units, keepsCursor⟩
        (.insert (start + units.length) more) old new =
      some ⟨.insertion, start, units ++ more, keepsCursor⟩ := by
  have inLine :
      ¬ (units.getLast? = some separator ∨ separator ∈ more) := by
    rintro (last | member)
    · exact clean (List.mem_of_getLast? last)
    · exact whole member
  rw [continued?, insert, if_neg inLine]
  exact if_pos ⟨rfl, adjoined⟩

/-- Units that go in where a step ended go on with it. -/
theorem Step.EndsAt.continued
    {step : Step}
    {position written : Nat}
    (ends : step.EndsAt position written)
    {units : List CodeUnit}
    (nonempty : units ≠ [])
    (whole : separator ∉ units)
    (numbering : Numbering) :
    ∃ next,
      step.continued? (.insert position units) numbering written =
          some next ∧
        next.EndsAt (position + units.length) (written + units.length) := by
  rcases ends with
    ⟨⟨others, start, earlier, keepsCursor, changes, present, clean, rfl⟩, rfl⟩
  let began : Numbering := { numbering with next := step.written }
  let between := others.foldl Numbering.after began
  have next : between.next + earlier.length =
      step.written + writtenBy step.changes := by
    rw [Numbering.next_foldl_after, changes, writtenBy_append,
      ← Nat.add_assoc]
    rfl
  have adjoined :
      Numbering.adjoin (List.range' between.next earlier.length)
          (List.range' (step.written + writtenBy step.changes)
            units.length) =
        true := by
    rw [← next]
    exact Numbering.adjoin_range' _
      (mt List.length_eq_zero_iff.mp present)
      (mt List.length_eq_zero_iff.mp nonempty)
  have joined :=
    Change.continued?_insertion clean whole adjoined start keepsCursor
  have unlocked (b : Bool) :
      ¬ (b = true ∧ ChangeKind.insertion = ChangeKind.removal) := nofun
  refine ⟨{ step with
    changes :=
      others ++ [⟨.insertion, start, earlier ++ units, keepsCursor⟩] }, ?_,
    ?_⟩
  · rw [Step.continued?, changes, List.getLast?_concat, List.dropLast_concat]
    dsimp only
    rw [if_neg (unlocked _)]
    exact congrArg (Option.map _) (changes ▸ joined)
  · constructor
    · refine ⟨others, start, _, _, rfl,
        List.append_ne_nil_of_left_ne_nil present units, ?_, ?_⟩
      · rw [List.mem_append, not_or]
        exact ⟨clean, whole⟩
      · rw [List.length_append, Nat.add_assoc]
    · simp only [changes, writtenBy_append, writtenBy, Change.written,
        List.length_append]
      omega

/-! ## Recording what is typed -/

section Record

variable {document : Document}

/-- Nothing goes on with the steps that led to a state that was saved. -/
theorem pastWith_of_unmodified
    (unmodified : document.isModified = false)
    (changes : List Change)
    (span : Span) :
    document.pastWith changes span =
      document.newStep changes span :: document.past := by
  have none (change : Change) : document.continuedPast? change = none := by
    rw [continuedPast?]
    split
    · rfl
    · exact if_neg (ne_true_of_eq_false unmodified)
  unfold pastWith
  split
  · rw [none]
    rfl
  · rfl

theorem pastWith_of_continued
    (modified : document.isModified = true)
    {step next : Step}
    {past : List Step}
    (latest : document.past = step :: past)
    {change : Change}
    (goesOn :
      step.continued? change (numberingAfter document.given past)
          document.written =
        some next) :
    document.pastWith [change] .single = next :: past := by
  rw [pastWith, continuedPast?, latest]
  dsimp only
  rw [if_pos modified, goesOn]
  rfl

end Record

end Document

namespace Editor

open Document

/-! ## Characters one after another -/

/--
The latest step ends at the cursor with what was written last, and the others
led to the content before it.
-/
structure GoesOn
    (before : List CodeUnit)
    (past : List Step)
    (editor : Editor) :
    Prop where
  latest :
    ∃ step,
      editor.document.past = step :: past ∧
        Leads before step.changes editor.content ∧
        step.EndsAt editor.cursor.position editor.document.written
  modified : editor.document.isModified = true
  unselected : editor.cursor.hasSelection = false

section Typing

variable
    {editor : Editor}
    (sound : editor.Sound)
    {c : CodePoint}
    (typed : isTyped c false = true)
    (inLine : c.val ≠ 0x2029)

include sound

omit typed inLine in
theorem Sound.content_putIn :
    (editor.putIn c).editor.content = (editor.draft.type [c]).content :=
  content_finish (sound.draft.type [c])

include typed inLine

/-- The character goes in last, in the place where the selection began. -/
theorem Sound.changes_putIn :
    (editor.draft.type [c]).changes =
      .insert editor.cursor.first (Utf16.encode [c]) ::
        editor.draft.removeSelection.changes := by
  have made := contentOf_ne_nil_of_isTyped typed inLine
  have changes :=
    @Draft.changes_type editor.draft sound.position_le sound.anchor_le _ made
  rwa [contentOf_of_isTyped typed inLine] at changes

theorem Sound.cursor_putIn :
    (editor.putIn c).editor.cursor =
      .atPosition (editor.cursor.first + (Utf16.encode [c]).length) := by
  have made := contentOf_ne_nil_of_isTyped typed inLine
  have cursor :=
    @Draft.cursor_type editor.draft sound.position_le sound.anchor_le _ made
  rwa [contentOf_of_isTyped typed inLine] at cursor

theorem Sound.document_putIn :
    (editor.putIn c).editor.document =
      { editor.document with
        content := (editor.draft.type [c]).content
        past :=
          editor.document.pastWith (editor.draft.type [c]).changes.reverse
            editor.keySpan
        future := []
        saved :=
          editor.document.saved.filter (· ≤ editor.document.past.length)
        written :=
          editor.document.written +
            writtenBy (editor.draft.type [c]).changes } := by
  have changed : (editor.draft.type [c]).changes ≠ [] := by
    rw [sound.changes_putIn typed inLine]
    exact List.cons_ne_nil _ _
  exact if_neg changed

theorem Sound.hasSelection_putIn :
    (editor.putIn c).editor.cursor.hasSelection = false := by
  rw [sound.cursor_putIn typed inLine]
  exact decide_eq_false fun differs => differs rfl

/-- A character that is typed into an unmodified document begins a step. -/
theorem Sound.goesOn_putIn
    (unmodified : editor.document.isModified = false) :
    (editor.putIn c).editor.GoesOn editor.content editor.document.past := by
  have changes := sound.changes_putIn typed inLine
  let step :=
    editor.document.newStep (editor.draft.type [c]).changes.reverse
      editor.keySpan
  have document := sound.document_putIn typed inLine
  refine ⟨⟨step, ?_, ?_, ?_, ?_⟩, ?_, sound.hasSelection_putIn typed inLine⟩
  · rw [document]
    exact pastWith_of_unmodified unmodified _ _
  · rw [sound.content_putIn]
    exact (sound.draft.type [c]).leads
  · rw [sound.cursor_putIn typed inLine]
    refine ⟨editor.draft.removeSelection.changes.reverse,
      editor.cursor.first, Utf16.encode [c], false, ?_,
      Utf16.encode_singleton_ne_nil c,
      separator_notMem_encode_of_isTyped typed inLine, rfl⟩
    exact (congrArg List.reverse changes).trans List.reverse_cons
  · rw [document]
    simp [step, newStep, writtenBy_reverse]
  · -- What was saved is not ahead, and the new step leads on from it.
    rw [document, pastWith_of_unmodified unmodified]
    simp [isModified, Option.filter_eq_some_iff]

/-- The next one goes on with it. -/
theorem GoesOn.putIn
    {before : List CodeUnit}
    {past : List Step}
    (goesOn : editor.GoesOn before past) :
    (editor.putIn c).editor.GoesOn before past := by
  rcases goesOn with ⟨⟨step, latest, leads, ends⟩, modified, unselected⟩
  have document := sound.document_putIn typed inLine
  have first : editor.cursor.first = editor.cursor.position := by
    rw [Cursor.eq_atPosition unselected]
    exact Nat.min_self _
  have changes :
      (editor.draft.type [c]).changes =
        [.insert editor.cursor.position (Utf16.encode [c])] := by
    rw [sound.changes_putIn typed inLine,
      Draft.removeSelection_of_unselected unselected, first]
    rfl
  have span : editor.keySpan = .single :=
    if_neg (ne_true_of_eq_false unselected)
  have single := (sound.draft.type [c]).leads
  rw [changes, List.reverse_singleton] at single document
  rw [span] at document
  obtain ⟨next, found, goneOn⟩ :=
    ends.continued (Utf16.encode_singleton_ne_nil c)
      (separator_notMem_encode_of_isTyped typed inLine)
      (numberingAfter editor.document.given past)
  rw [pastWith_of_continued modified latest found] at document
  refine ⟨⟨next, ?_, ?_, ?_⟩, ?_, sound.hasSelection_putIn typed inLine⟩
  · rw [document]
  · rw [sound.content_putIn]
    exact Step.leads_continued found leads single
  · rw [sound.cursor_putIn typed inLine, document, first]
    exact goneOn
  · rw [document]
    simp only [isModified, latest, List.length_cons, decide_eq_true_eq]
      at modified ⊢
    intro saved
    exact modified (Option.filter_eq_some_iff.mp saved).1

end Typing

/-! ## One step -/

/-- The key of a character puts it in, and does nothing else. -/
structure IsPlainKey (c : CodePoint) : Prop where
  isTyped_eq : isTyped c false = true
  inLine : c.val ≠ 0x2029
  opensNone : closing? c = none
  closesNone : isClosing c = false

theorem IsPlainKey.typeCharacter_eq
    {c : CodePoint}
    (plain : IsPlainKey c)
    (editor : Editor) :
    editor.typeCharacter c false = (editor.putIn c).revealed := by
  rw [Editor.typeCharacter, plain.opensNone]
  dsimp only
  rw [if_neg (ne_true_of_eq_false plain.closesNone), Editor.typePlain,
    if_pos plain.isTyped_eq]

/-- Whatever more is typed goes on with the step. -/
theorem GoesOn.typeText
    {editor : Editor}
    (sound : editor.Sound)
    {before : List CodeUnit}
    {past : List Step}
    (goesOn : editor.GoesOn before past)
    {written : Text}
    (plain : ∀ c ∈ written, IsPlainKey c) :
    (editor.typeText written false).editor.GoesOn before past := by
  let Reached (outcome : Outcome) : Prop :=
    outcome.editor.Sound ∧ outcome.editor.GoesOn before past
  have reached : Reached (editor.typeText written false) :=
    List.foldlRecOn written _ ⟨sound, goesOn⟩
      fun outcome ⟨next, on⟩ c member => by
      have key := plain c member
      refine ⟨next.typeCharacter c false, ?_⟩
      have typed := on.putIn next key.isTyped_eq key.inLine
      rw [Outcome.editor_andThen, key.typeCharacter_eq]
      exact ⟨typed.latest, typed.modified, typed.unselected⟩
  exact reached.2

/--
In every session, characters that are typed into an unmodified document, in
place of the selection if there is one, are one step of the history: undoing
once takes all of them back, and redoing once puts them in again.
-/
theorem isOneStep_typeText_session
    (palette : Palette)
    (mode : Language.Mode)
    (text : Text)
    (commands : List Command)
    {c : CodePoint}
    {written : Text}
    (plain : ∀ d ∈ c :: written, IsPlainKey d)
    (unmodified :
      (session palette mode text commands).document.isModified = false) :
    let editor := session palette mode text commands
    editor.IsOneStep (editor.typeText (c :: written) false).editor := by
  have sound := sound_session palette mode text commands
  generalize session palette mode text commands = editor at sound unmodified
  have key := plain c List.mem_cons_self
  have first := sound.goesOn_putIn key.isTyped_eq key.inLine unmodified
  have begun :
      (editor.typeCharacter c false).editor.GoesOn editor.content
        editor.document.past := by
    rw [key.typeCharacter_eq]
    exact ⟨first.latest, first.modified, first.unselected⟩
  have typed :=
    begun.typeText (sound.typeCharacter c false)
      fun d member => plain d (List.mem_cons_of_mem c member)
  rw [← editor_typeText_cons] at typed
  rcases typed.latest with ⟨step, latest, leads, _⟩
  exact isOneStep_of_latest latest leads

/--
Two characters that came in together are erased in one step.  If the second of
them has been typed later, the typing is a step, and so is the erasing of each.
-/
example :
    let steps (commands : List Command) : Nat :=
      (session .dark .scallop (Text.ofString "ac")
        commands).document.past.length
    steps [.selectEnd, .press .backspace, .press .backspace] = 1 ∧
      steps
          [.select 1 1, .type (Text.ofString "b") false, .press .backspace,
            .press .backspace] =
        3 := by
  decide +kernel

end Editor

end ClauseEditor
