import ClauseEditor.Proofs.Editor.Session

/-!
# What is reported of the cursor

The place of a cursor depends on nothing but the units in front of it.  A
change that does not touch the cursor stands behind it, so these units stay,
and the cursor stays behind them.  Hence a command after which the cursor is
not reported leaves it at the place where it was: an edit because none of its
changes has touched the cursor, a step of the history and a placing of the
cursor because they compare the positions as well.

What a command reports is where it leaves the cursor, with one exception.  A
step of the history that puts the cursor at the position where it was reports
only where the changes have moved it in between.
-/

namespace ClauseEditor

namespace Document

/-! ## The units in front of a cursor -/

/-- The content starts with some units, and the cursor stands right behind. -/
structure Cursor.StandsBehind
    (front content : List CodeUnit)
    (cursor : Cursor) :
    Prop where
  position_eq : cursor.position = front.length
  leads : front <+: content

section StandsBehind

variable {front content : List CodeUnit} {cursor : Cursor}

theorem Cursor.standsBehind_take
    (inside : cursor.position ≤ content.length) :
    cursor.StandsBehind (content.take cursor.position) content :=
  ⟨(List.length_take_of_le inside).symm, List.take_prefix _ _⟩

theorem Cursor.StandsBehind.lineAt_eq
    (stands : cursor.StandsBehind front content) :
    lineAt content cursor.position = front.count separator := by
  rw [lineAt, stands.position_eq, ← List.prefix_iff_eq_take.mp stands.leads]

/-- The line of the cursor starts where the units in front of it say. -/
theorem Cursor.StandsBehind.columnAt_eq
    (stands : cursor.StandsBehind front content) :
    columnAt content cursor.position =
      front.length - lineStart front (front.count separator) := by
  have line := stands.lineAt_eq
  rcases stands with ⟨position, behind, rfl⟩
  rw [columnAt, line, position, lineStart, lineStart,
    take_linesOf_append front behind]

/-- The place of the cursor is one of the units in front of it. -/
theorem Cursor.StandsBehind.placeAt_eq
    (stands : cursor.StandsBehind front content) :
    placeAt content cursor.position =
      ⟨front.count separator,
        front.length - lineStart front (front.count separator)⟩ := by
  rw [placeAt, stands.lineAt_eq, stands.columnAt_eq]

/-- A change that does not touch a cursor stands behind it. -/
theorem Change.le_of_touches_eq_false
    {change : Change}
    {position : Nat}
    (spared : change.touches position = false) :
    position ≤ change.position := by
  rw [touches, Bool.or_eq_false_iff, decide_eq_false_iff_not] at spared
  exact Nat.le_of_not_lt spared.1

/-- Nor does it move the cursor, which it keeps if it is made right there. -/
theorem Change.move_eq_of_touches_eq_false
    {change : Change}
    {position : Nat}
    (spared : change.touches position = false) :
    change.move position = position := by
  have behind := le_of_touches_eq_false spared
  simp only [touches, Bool.or_eq_false_iff, Bool.and_eq_false_imp,
    decide_eq_true_eq, Bool.not_eq_false'] at spared
  rw [move, if_pos]
  rcases Nat.lt_or_eq_of_le behind with before | same
  · exact Or.inl before
  · exact Or.inr ⟨same, spared.2 same.symm⟩

/-- What stands in front of a change stays. -/
theorem Change.leads_apply
    {change : Change}
    (leads : front <+: content)
    (before : front.length ≤ change.position) :
    front <+: change.apply content := by
  have kept : front <+: content.take change.position :=
    List.prefix_take_iff.mpr ⟨leads, before⟩
  rw [apply]
  split
  · rw [List.append_assoc]
    exact kept.trans (List.prefix_append _ _)
  · exact kept.trans (List.prefix_append _ _)

theorem Cursor.StandsBehind.apply
    (stands : cursor.StandsBehind front content)
    {change : Change}
    (spared : change.touches cursor.position = false) :
    (cursor.move change).StandsBehind front (change.apply content) := by
  have before := Change.le_of_touches_eq_false spared
  rw [stands.position_eq] at before
  exact
    ⟨(Change.move_eq_of_touches_eq_false spared).trans stands.position_eq,
      Change.leads_apply stands.leads before⟩

end StandsBehind

/-! ## Drafts -/

namespace Draft

/--
A draft of a content that leaves the cursor behind some units until a change
touches it, and the content alone until there is a change.
-/
structure Spares
    (content front : List CodeUnit)
    (draft : Draft) :
    Prop where
  content_eq : draft.changes = [] → draft.content = content
  stands : draft.touched = false → draft.cursor.StandsBehind front draft.content

namespace Spares

variable {content front : List CodeUnit} {draft : Draft}

theorem start
    {cursor : Cursor}
    (stands : cursor.StandsBehind front content) :
    (Draft.start content cursor).Spares content front :=
  ⟨fun _ => rfl, fun _ => stands⟩

theorem apply
    (spares : draft.Spares content front)
    (change : Change) :
    (draft.apply change).Spares content front := by
  rw [Draft.apply]
  split
  · exact spares
  · constructor
    · intro unchanged
      cases unchanged
    · intro untouched
      rcases Bool.or_eq_false_iff.mp untouched with ⟨before, spared⟩
      exact (spares.stands before).apply spared

theorem insert
    (spares : draft.Spares content front)
    (position : Nat)
    (text : Text) :
    (draft.insert position text).Spares content front :=
  spares.apply _

theorem remove
    (spares : draft.Spares content front)
    (first last : Nat) :
    (draft.remove first last).Spares content front :=
  spares.apply _

theorem removeSelection
    (spares : draft.Spares content front) :
    draft.removeSelection.Spares content front :=
  spares.apply _

theorem type
    (spares : draft.Spares content front)
    (text : Text) :
    (draft.type text).Spares content front :=
  spares.removeSelection.insert _ text

theorem foldl_apply
    (spares : draft.Spares content front)
    (changes : List Change) :
    (changes.foldl Draft.apply draft).Spares content front :=
  List.foldlRecOn changes Draft.apply spares
    fun _ reached change _ => reached.apply change

theorem replaceLines
    (spares : draft.Spares content front)
    (first : Nat)
    (lines : List (Text × Text)) :
    (Editor.replaceLines draft first lines).Spares content front := by
  induction lines generalizing draft first with
  | nil => exact spares
  | cons line lines induction =>
      rcases line with ⟨old, new⟩
      rw [Editor.replaceLines]
      apply induction
      split
      · exact spares
      · exact (spares.remove _ _).insert _ _

theorem foldl_outdentLine
    (spares : draft.Spares content front)
    (unit : Text)
    (lines : List Nat) :
    (lines.foldl (Editor.outdentLine unit) draft).Spares content front :=
  List.foldlRecOn lines (Editor.outdentLine unit) spares
    fun _ reached _ _ => reached.remove _ _

end Spares

end Draft

end Document

namespace Editor

open Document

/-! ## Reindenting -/

namespace Reindenting

variable
    {content front : List CodeUnit}
    {reindenting : Reindenting}

theorem spares_alignLine
    (spares : reindenting.draft.Spares content front)
    (style : Indent.Style)
    (line column : Nat) :
    (reindenting.alignLine style line column).1.draft.Spares content front := by
  rw [alignLine_draft]
  split
  · exact spares
  · exact (spares.remove _ _).insert _ _

theorem spares_alignContent
    (spares : reindenting.draft.Spares content front)
    (style : Indent.Style)
    (line : Nat) :
    (alignContent style reindenting line).draft.Spares content front := by
  rw [alignContent]
  split
  · exact spares
  · exact spares_alignLine spares style line 0

theorem spares_foldl_alignContent
    (spares : reindenting.draft.Spares content front)
    (style : Indent.Style)
    (lines : List Nat) :
    (lines.foldl (alignContent style) reindenting).draft.Spares content
      front := by
  induction lines generalizing reindenting with
  | nil => exact spares
  | cons line lines induction =>
      exact induction (spares_alignContent spares style line)

theorem spares_tidyLine
    (spares : reindenting.draft.Spares content front)
    (style : Indent.Style)
    (line : Nat) :
    (reindenting.tidyLine style line).draft.Spares content front := by
  rw [tidyLine]
  dsimp only
  split
  · exact spares.remove _ _
  · exact spares_alignLine spares style line 0

theorem spares_tidyLines
    (spares : reindenting.draft.Spares content front)
    (style : Indent.Style)
    (lines : List Nat) :
    (reindenting.tidyLines style lines).1.draft.Spares content front := by
  induction lines generalizing reindenting with
  | nil => exact spares
  | cons line lines induction =>
      exact induction (spares_tidyLine spares style line)

end Reindenting

/-! ## What is reported -/

/--
An outcome reports the cursor rightly: the place is told where the cursor is,
and if none is, the cursor is at the place where it was.
-/
structure Outcome.Reports (before : Place) (outcome : Outcome) : Prop where
  spared : outcome.reported? = none → outcome.editor.place = before
  told : ∀ place ∈ outcome.reported?, place = outcome.editor.place

section Reports

variable
    {before : Place}
    {editor : Editor}
    {outcome : Outcome}
    {next : Editor → Outcome}

theorem reports_stay : editor.stay.Reports editor.place :=
  ⟨fun _ => rfl, nofun⟩

theorem reports_reporting
    {called : Bool}
    (spared : called = false → editor.place = before) :
    (editor.reporting called).Reports before := by
  cases called with
  | false => exact ⟨fun _ => spared rfl, nofun⟩
  | true =>
      refine ⟨nofun, ?_⟩
      rintro _ ⟨⟩
      rfl

theorem Outcome.Reports.revealed
    (reports : outcome.Reports before) :
    outcome.revealed.Reports before :=
  ⟨reports.spared, reports.told⟩

/-- The later report counts, and the earlier one if there is no other. -/
theorem Outcome.Reports.andThen
    (first : outcome.Reports before)
    (last : (next outcome.editor).Reports outcome.editor.place) :
    (outcome.andThen next).Reports before := by
  constructor
  · intro none
    rcases Option.or_eq_none_iff.mp none with ⟨noLast, noFirst⟩
    exact (last.spared noLast).trans (first.spared noFirst)
  · intro place told
    rcases Option.or_eq_some_iff.mp told with toldLast | ⟨noLast, toldFirst⟩
    · exact last.told place toldLast
    · exact (first.told place toldFirst).trans (last.spared noLast).symm

theorem reports_placeCursor (cursor : Cursor) :
    (editor.placeCursor cursor).Reports editor.place := by
  apply Outcome.Reports.revealed
  apply reports_reporting
  intro still
  have same : editor.cursor.position = cursor.position :=
    not_not.mp (of_decide_eq_false still)
  rw [place, place, same]

/-- No field of an editor counts but the document and the cursor. -/
theorem reports_of_same
    {other : Editor}
    (document : other.document = editor.document)
    (cursor : other.cursor = editor.cursor) :
    other.stay.Reports editor.place := by
  refine ⟨fun _ => ?_, nofun⟩
  rw [stay, place, content, document, cursor, place]

/-- A text that is set is shown from its start. -/
theorem reports_setText (text : Text) :
    (editor.setText text).Reports editor.place :=
  reports_reporting nofun

end Reports

theorem reported_travel
    {editor : Editor}
    {next : Document}
    {draft : Draft}
    {position : Nat}
    (elsewhere :
      (editor.travel next draft position).editor.cursor.position ≠
        editor.cursor.position) :
    (editor.travel next draft position).reported? =
      some (editor.travel next draft position).editor.place := by
  have apart : position ≠ editor.cursor.position := elsewhere
  rw [Editor.travel, Outcome.revealed, Outcome.andThen, reporting,
    if_pos (decide_eq_true apart)]
  rfl

/--
What a step of the history comes to: nothing, or another document, reached
through a draft of the changes, which spares the cursor as that of an edit does.
-/
inductive Journey (editor : Editor) : Outcome → Prop
  | stay : Journey editor editor.stay
  | travel
      {next : Document}
      {draft : Draft}
      (spares :
        draft.Spares editor.content
          (editor.content.take editor.cursor.position))
      (content_eq : next.content = draft.content)
      (position : Nat) :
      Journey editor (editor.travel next draft position)

/-! ## Operations of the editor -/

namespace Sound

variable {editor : Editor} (sound : editor.Sound)

include sound

theorem spares_draft :
    editor.draft.Spares editor.content
      (editor.content.take editor.cursor.position) :=
  .start (Cursor.standsBehind_take sound.position_le)

/-- A cursor that still stands behind the same units is where it was. -/
theorem place_eq_of_standsBehind
    {content : List CodeUnit}
    {cursor : Cursor}
    (stands :
      cursor.StandsBehind (editor.content.take editor.cursor.position)
        content) :
    placeAt content cursor.position = editor.place :=
  stands.placeAt_eq.trans
    (Cursor.standsBehind_take sound.position_le).placeAt_eq.symm

/-- An edit reports the cursor if a change has touched it. -/
theorem reports_finish
    {draft : Draft}
    (spares :
      draft.Spares editor.content
        (editor.content.take editor.cursor.position))
    (memo : Indent.Memo)
    (span : Span) :
    (editor.finish draft memo span).Reports editor.place := by
  apply reports_reporting
  intro untouched
  have committed :
      (editor.document.commit draft span).content = draft.content := by
    rw [commit]
    split
    · rename_i unchanged
      exact (spares.content_eq unchanged).symm
    · rfl
  have same := sound.place_eq_of_standsBehind (spares.stands untouched)
  rw [← committed] at same
  exact same

/-! ## Steps of the history -/

/-- A step that travels without a report leaves the cursor where it was. -/
theorem spared_travel
    {next : Document}
    {draft : Draft}
    (spares :
      draft.Spares editor.content
        (editor.content.take editor.cursor.position))
    (content_eq : next.content = draft.content)
    (position : Nat)
    (unreported : (editor.travel next draft position).reported? = none) :
    (editor.travel next draft position).editor.place = editor.place := by
  rcases Option.or_eq_none_iff.mp unreported with ⟨still, untouched⟩
  have same : position = editor.cursor.position := by
    simpa [reporting] using still
  have stands := spares.stands (by simpa [reporting] using untouched)
  have kept := sound.place_eq_of_standsBehind stands
  rw [← content_eq, stands.position_eq,
    List.length_take_of_le sound.position_le, ← same] at kept
  exact kept

theorem spared_journey
    {outcome : Outcome}
    (journey : Journey editor outcome)
    (unreported : outcome.reported? = none) :
    outcome.editor.place = editor.place := by
  cases journey with
  | stay => rfl
  | travel spares content_eq position =>
      exact sound.spared_travel spares content_eq position unreported

/-- A step that puts the cursor at another position reports it there. -/
theorem reports_journey
    {outcome : Outcome}
    (journey : Journey editor outcome)
    (elsewhere : outcome.editor.cursor.position ≠ editor.cursor.position) :
    outcome.Reports editor.place := by
  refine ⟨sound.spared_journey journey, ?_⟩
  cases journey with
  | stay => nofun
  | travel spares content_eq position =>
      rw [reported_travel elsewhere]
      rintro _ ⟨⟩
      rfl

theorem journey_undo : Journey editor editor.undo := by
  rw [Editor.undo]
  cases undone : editor.document.undo? editor.cursor with
  | none => exact .stay
  | some travelled =>
      rcases travelled with ⟨next, step, draft⟩
      rw [undo?] at undone
      split at undone
      · cases undone
      · cases undone
        exact .travel (sound.spares_draft.foldl_apply _) rfl _

theorem journey_redo : Journey editor editor.redo := by
  rw [Editor.redo]
  cases redone : editor.document.redo? editor.cursor with
  | none => exact .stay
  | some travelled =>
      rcases travelled with ⟨next, step, draft⟩
      rw [redo?] at redone
      split at redone
      · cases redone
      · cases redone
        exact .travel (sound.spares_draft.foldl_apply _) rfl _

/-! ## Commands that edit lines -/

theorem reports_reindentLine : editor.reindentLine.Reports editor.place := by
  rw [Editor.reindentLine]
  exact (sound.reports_finish
    (Reindenting.spares_alignLine sound.spares_draft _ _ _) _ _).andThen
      (reports_placeCursor _)

theorem reports_reindentSelection :
    editor.reindentSelection.Reports editor.place :=
  sound.reports_finish
    (Reindenting.spares_foldl_alignContent sound.spares_draft _ _) _ _

theorem reports_reindentDocument :
    editor.reindentDocument.1.Reports editor.place :=
  sound.reports_finish (Reindenting.spares_tidyLines sound.spares_draft _ _)
    _ _

theorem reports_breakLine : editor.breakLine.Reports editor.place := by
  rw [Editor.breakLine]
  refine (sound.reports_finish (Reindenting.spares_alignLine ?_ _ _ _) _
    _).andThen (reports_placeCursor _)
  exact sound.spares_draft.type (Text.ofString "\n")

theorem reports_toggleComment : editor.toggleComment.Reports editor.place :=
  sound.reports_finish (sound.spares_draft.replaceLines _ _) _ _

theorem reports_outdentSelection :
    editor.outdentSelection.Reports editor.place :=
  sound.reports_finish (sound.spares_draft.foldl_outdentLine _ _) _ _

/-! ## Keys -/

theorem reports_eraseBackward : editor.eraseBackward.Reports editor.place := by
  rw [Editor.eraseBackward]
  refine (sound.reports_finish ?_ _ _).revealed
  split
  · exact sound.spares_draft.removeSelection
  · exact sound.spares_draft.remove _ _

theorem reports_eraseForward : editor.eraseForward.Reports editor.place := by
  rw [Editor.eraseForward]
  refine (sound.reports_finish ?_ _ _).revealed
  split
  · exact sound.spares_draft.removeSelection
  · exact sound.spares_draft.apply _

theorem reports_putIn (c : CodePoint) :
    (editor.putIn c).Reports editor.place :=
  sound.reports_finish (sound.spares_draft.type [c]) _ _

theorem reports_typePlain (c : CodePoint) (control : Bool) :
    (editor.typePlain c control).Reports editor.place := by
  rw [Editor.typePlain]
  split
  · exact (sound.reports_putIn c).revealed
  · exact reports_stay

theorem reports_typePair (opening close : CodePoint) (control : Bool) :
    (editor.typePair opening close control).Reports editor.place := by
  rw [Editor.typePair]
  have opened := sound.reports_typePlain opening control
  have closed :
      ((editor.typePlain opening control).andThen (·.putIn close)).Reports
        editor.place :=
    opened.andThen ((sound.typePlain opening control).reports_putIn close)
  exact closed.andThen (reports_placeCursor _)

theorem reports_typeClosing (c : CodePoint) (control : Bool) :
    (editor.typeClosing c control).Reports editor.place := by
  rw [Editor.typeClosing]
  split
  · exact reports_placeCursor _
  · exact sound.reports_typePlain c control

theorem reports_settleBracket :
    editor.settleBracket.Reports editor.place := by
  rw [Editor.settleBracket]
  split
  · exact sound.reports_reindentLine
  · exact reports_stay

theorem reports_typeCharacter (c : CodePoint) (control : Bool) :
    (editor.typeCharacter c control).Reports editor.place := by
  rw [Editor.typeCharacter]
  split
  · exact sound.reports_typePair c _ control
  · split
    · have closed := sound.reports_typeClosing c control
      dsimp only
      split
      · exact closed.andThen
          (sound.typeClosing c control).reports_settleBracket
      · exact closed
    · exact sound.reports_typePlain c control

theorem reports_pressKey (key : Key) :
    (editor.pressKey key).Reports editor.place := by
  cases key with
  | enter => exact sound.reports_breakLine
  | tab =>
      rw [Editor.pressKey]
      split
      · exact sound.reports_reindentSelection
      · exact sound.reports_reindentLine
  | backtab => exact sound.reports_outdentSelection
  | backspace => exact sound.reports_eraseBackward
  | delete => exact sound.reports_eraseForward

/-- Each character is typed into a sound editor. -/
theorem reports_typeText (text : Text) (control : Bool) :
    (editor.typeText text control).Reports editor.place := by
  let Typed (outcome : Outcome) : Prop :=
    outcome.editor.Sound ∧ outcome.Reports editor.place
  have typed : Typed (editor.typeText text control) :=
    List.foldlRecOn text _ ⟨sound, reports_stay⟩
      fun _ reached c _ =>
        ⟨reached.1.typeCharacter c control,
          reached.2.andThen (reached.1.reports_typeCharacter c control)⟩
  exact typed.2

end Sound

/-! ## Any command -/

/-- Goes back or forth in the history. -/
def Command.travels : Command → Bool
  | .undo | .redo => true
  | _ => false

/-- A command goes back or forth and leaves the cursor at its position. -/
def returns (editor : Editor) (command : Command) : Bool :=
  command.travels &&
    (editor.perform command).editor.cursor.position = editor.cursor.position

section Perform

variable {editor : Editor} (sound : editor.Sound) {command : Command}

include sound

/-- A command that stays in the history reports the cursor rightly. -/
theorem Sound.reports_perform_of_stays
    (stays : command.travels = false) :
    (editor.perform command).Reports editor.place := by
  cases command with
  | setText text => exact reports_setText text
  | select position anchor => exact reports_placeCursor _
  | selectEnd => exact reports_placeCursor _
  | press key => exact sound.reports_pressKey key
  | type text control => exact sound.reports_typeText text control
  | breakLine => exact sound.reports_breakLine
  | reindentLine => exact sound.reports_reindentLine
  | reindentSelection => exact sound.reports_reindentSelection
  | reindentDocument => exact sound.reports_reindentDocument
  | toggleComment => exact sound.reports_toggleComment
  | undo => cases stays
  | redo => cases stays
  | turnWheel control delta =>
      rw [Editor.perform, Editor.turnWheel]
      split
      · exact reports_of_same rfl rfl
      · split <;> exact reports_of_same rfl rfl
  | setWrapping wraps =>
      rw [Editor.perform, Editor.setWrapping]
      split <;> exact reports_of_same rfl rfl
  | _ => exact reports_of_same rfl rfl

theorem Sound.journey_perform
    (travels : command.travels = true) :
    Journey editor (editor.perform command) := by
  cases command with
  | undo => exact sound.journey_undo
  | redo => exact sound.journey_redo
  | _ => cases travels

/-- So does one that goes back or forth and puts the cursor somewhere else. -/
theorem Sound.reports_perform
    (onwards : editor.returns command = false) :
    (editor.perform command).Reports editor.place := by
  cases travels : command.travels with
  | false => exact sound.reports_perform_of_stays travels
  | true =>
      apply sound.reports_journey (sound.journey_perform travels)
      simpa [returns, travels] using onwards

/--
A command after which the cursor is not reported leaves it at the place where
it was.
-/
theorem Sound.place_perform_of_unreported
    (unreported : (editor.perform command).reported? = none) :
    (editor.perform command).editor.place = editor.place := by
  cases travels : command.travels with
  | false => exact (sound.reports_perform_of_stays travels).spared unreported
  | true =>
      exact sound.spared_journey (sound.journey_perform travels) unreported

end Perform

end Editor

end ClauseEditor
