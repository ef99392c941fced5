import ClauseEditor.Proofs.Commenting
import ClauseEditor.Proofs.Document.Places
import ClauseEditor.Proofs.Editor.Blocks
import ClauseEditor.Proofs.Editor.Confluence

/-!
# One undo takes a command back

However many removals and insertions a command is made of, they are one edit
block and so at most one step of the history.  Undoing right afterwards leads
to the content before the command, and redoing leads to the content after it.

A command that moves lines to their columns, outdents them or toggles their
comments makes no change at all unless the content comes out different: no two
of its changes make up for each other.  What is moved is moved in one line
only, outdenting only takes units away, and toggling comments either only adds
units that end no line or only takes such units away.  A line break always
makes a change, even when it puts a separator in the place of another one.
-/

namespace ClauseEditor

open Document
open Indent

/-! ## Units inside the lines -/

namespace Document

/-- How many units do not end a line. -/
def inside (units : List CodeUnit) : Nat :=
  units.countP fun unit => !endsLine unit

@[simp]
theorem inside_append (left right : List CodeUnit) :
    inside (left ++ right) = inside left + inside right :=
  List.countP_append

/-- Line ends may be joined on the way into a document, other units stay. -/
theorem inside_normalised (units : List CodeUnit) :
    inside (normalised units) = inside units := by
  have separatorEnds : endsLine separator = true := by decide
  fun_induction normalised units with
  | case1 => rfl
  | case2 unit ends => simp [inside, ends, separatorEnds]
  | case3 => rfl
  | case4 unit next rest both induction =>
      have ends : endsLine unit = true := by simp [endsLine, both.1]
      have nextEnds : endsLine next = true := by simp [endsLine, both.2]
      simpa [inside, ends, nextEnds, separatorEnds] using induction
  | case5 unit next rest _ ends induction =>
      simpa [inside, ends, separatorEnds, List.countP_cons] using induction
  | case6 unit next rest _ _ induction =>
      simpa [inside, List.countP_cons] using induction

theorem inside_contentOf (text : Text) :
    inside (contentOf text) = inside (Utf16.encode text) :=
  inside_normalised _

theorem inside_flatten_contentOf (texts : List Text) :
    inside (texts.map contentOf).flatten =
      inside (Utf16.encode texts.flatten) := by
  induction texts with
  | nil => rfl
  | cons text texts induction =>
      rw [List.map_cons, List.flatten_cons, List.flatten_cons, inside_append,
        Utf16.encode_append, inside_append, inside_contentOf, induction]

theorem flatten_map_encode (texts : List Text) :
    (texts.map Utf16.encode).flatten = Utf16.encode texts.flatten := by
  induction texts with
  | nil => rfl
  | cons text texts induction =>
      rw [List.map_cons, List.flatten_cons, List.flatten_cons,
        Utf16.encode_append, induction]

/-- Separators make no difference. -/
theorem inside_intercalate (lines : List (List CodeUnit)) :
    inside ([separator].intercalate lines) = inside lines.flatten := by
  induction lines with
  | nil => rfl
  | cons line lines induction =>
      cases lines with
      | nil => rw [List.intercalate_singleton, List.flatten_singleton]
      | cons next lines =>
          have none : inside [separator] = 0 := by decide
          rw [List.intercalate_cons_cons, inside_append, inside_append, none,
            induction, Nat.add_zero, ← inside_append]
          rfl

/-- A line has all its units inside. -/
theorem inside_eq_length
    {units : List CodeUnit}
    (plain : ∀ unit ∈ units, endsLine unit = false) :
    inside units = units.length := by
  rw [inside, List.countP_eq_length]
  intro unit member
  simp [plain unit member]

/-- Commenting a line out adds to it. -/
theorem inside_lt_comment (mark line : Text) (position : Nat) :
    inside (Utf16.encode line) <
      inside (Utf16.encode (Commenting.comment mark position line)) := by
  rcases Commenting.exists_comment_eq mark line position with
    ⟨before, behind, parted, commented⟩
  have space : inside (Utf16.encode (Text.ofString " ")) = 1 := by decide
  rw [commented, parted]
  simp only [Utf16.encode_append, inside_append, space]
  omega

/-- Uncommenting a line takes something away from it or leaves it alone. -/
theorem inside_uncomment_lt
    {line : Text}
    (plain : ∀ unit ∈ Utf16.encode line, endsLine unit = false)
    {mark : Text}
    (changed : Commenting.uncomment mark line ≠ line) :
    inside (Utf16.encode (Commenting.uncomment mark line)) <
      inside (Utf16.encode line) := by
  rcases Commenting.exists_uncomment_eq mark line with
    ⟨before, removed, behind, parted, uncommented⟩
  have removedPlain :
      ∀ unit ∈ Utf16.encode removed, endsLine unit = false := by
    intro unit member
    apply plain
    rw [parted, Utf16.encode_append, Utf16.encode_append]
    simp [member]
  have something : 1 ≤ removed.length := by
    cases removed with
    | nil => exact absurd (uncommented.trans (by simp [parted])) changed
    | cons c removed => exact Nat.succ_le_of_lt (Nat.zero_lt_succ _)
  have longer := Utf16.length_le_length_encode removed
  rw [uncommented, parted]
  simp only [Utf16.encode_append, inside_append,
    inside_eq_length removedPlain]
  omega

end Document

namespace Commenting

/-- How many units of a text do not end a line. -/
def weight (text : Text) : Nat :=
  inside (Utf16.encode text)

theorem weight_append (left right : Text) :
    weight (left ++ right) = weight left + weight right := by
  rw [weight, Utf16.encode_append, inside_append, weight, weight]

/-- No line makes up for another one if all of them change in one direction. -/
theorem map_eq_of_lighter
    {lines : List Text}
    {light heavy : Text → Text}
    (lighter :
      ∀ line ∈ lines,
        light line = heavy line ∨ weight (light line) < weight (heavy line)) :
    weight (lines.map light).flatten ≤ weight (lines.map heavy).flatten ∧
      (weight (lines.map light).flatten = weight (lines.map heavy).flatten →
        lines.map light = lines.map heavy) := by
  induction lines with
  | nil => exact ⟨Nat.le_refl _, fun _ => rfl⟩
  | cons line lines induction =>
      rcases induction fun other member =>
        lighter other (List.mem_cons_of_mem line member) with ⟨le, same⟩
      simp only [List.map_cons, List.flatten_cons, weight_append]
      rcases lighter line List.mem_cons_self with equal | less
      · rw [equal]
        refine ⟨Nat.add_le_add_left le _, fun balanced => ?_⟩
        rw [same (Nat.add_left_cancel balanced)]
      · exact ⟨by omega, fun balanced => by omega⟩

/-- Toggling that leaves as many units inside the lines leaves the lines. -/
theorem toggle_eq_self
    {mark : Text}
    {lines : List Text}
    (plain : ∀ line ∈ lines, ∀ unit ∈ Utf16.encode line,
      endsLine unit = false)
    (balanced : weight (toggle mark lines).flatten = weight lines.flatten) :
    toggle mark lines = lines := by
  have self : lines.map id = lines := List.map_id lines
  by_cases all : AllCommented mark lines
  · have lighter (line : Text) (listed : line ∈ lines) :
        (if Text.isBlank line then line else uncomment mark line) = id line ∨
          weight (if Text.isBlank line then line else uncomment mark line) <
            weight (id line) := by
      split
      · exact .inl rfl
      · by_cases same : uncomment mark line = line
        · exact .inl same
        · exact .inr (inside_uncomment_lt (plain line listed) same)
    have unchanged := (map_eq_of_lighter lighter).2
    rw [self] at unchanged
    rw [toggle_of_allCommented all] at balanced ⊢
    exact unchanged balanced
  · have lighter (line : Text) (_ : line ∈ lines) :
        id line =
            (if Text.isBlank line then line
              else comment mark (commentPosition lines) line) ∨
          weight (id line) <
            weight
              (if Text.isBlank line then line
                else comment mark (commentPosition lines) line) := by
      split
      · exact .inl rfl
      · exact .inr (inside_lt_comment mark line _)
    have unchanged := (map_eq_of_lighter lighter).2
    rw [self] at unchanged
    rw [toggle_of_not_allCommented all] at balanced ⊢
    exact (unchanged balanced.symm).symm

end Commenting

namespace Editor

/-! ## Edit blocks that change nothing -/

namespace Reindenting

variable
    {content : List CodeUnit}
    {reindenting : Reindenting}
    {style : Style}
    {line : Nat}

/-- Moving a line makes no change unless its text comes out different. -/
theorem alignLine_draft_of_same
    (present : line < reindenting.texts.length)
    {column : Nat}
    (same :
      (reindenting.alignLine style line column).1.texts.getD line [] =
        reindenting.texts.getD line []) :
    (reindenting.alignLine style line column).1.draft = reindenting.draft := by
  have inside : line < (linesOf reindenting.draft.content).length := by
    rwa [length_textsOf] at present
  rw [texts, alignLine_texts inside, List.getD_eq_getElem?_getD,
    List.getElem?_set_self present, Option.getD_some, ← lineText_eq] at same
  rw [alignLine_draft, if_pos same]

theorem alignContent_draft_of_same
    (present : line < reindenting.texts.length)
    (same :
      (Reindenting.alignContent style reindenting line).texts.getD line [] =
        reindenting.texts.getD line []) :
    (Reindenting.alignContent style reindenting line).draft =
      reindenting.draft := by
  rw [Reindenting.alignContent] at same ⊢
  split
  · rfl
  · rename_i visible
    rw [if_neg visible] at same
    exact alignLine_draft_of_same present same

/-- What one line has become, moving the others does not take back. -/
theorem Sound.foldl_alignContent_draft_of_same
    (sound : reindenting.Sound content)
    {selected : List Nat}
    (present : ∀ line ∈ selected, line < reindenting.texts.length)
    (distinct : selected.Nodup)
    (same :
      (selected.foldl (Reindenting.alignContent style) reindenting).texts =
        reindenting.texts) :
    (selected.foldl (Reindenting.alignContent style) reindenting).draft =
      reindenting.draft := by
  induction selected generalizing reindenting with
  | nil => rfl
  | cons line selected induction =>
      have first := present line List.mem_cons_self
      rcases List.nodup_cons.mp distinct with ⟨fresh, distinct⟩
      have others :
          ∀ other ∈ selected,
            other <
              (Reindenting.alignContent style reindenting line).texts.length := by
        intro other member
        rw [alignContent_length first style]
        exact present other (List.mem_cons_of_mem line member)
      have next := sound.alignContent first style
      have moved :=
        next.moved_foldl_alignContent
          (.refl style
            (Reindenting.alignContent style reindenting line).texts)
          others
      rw [List.append_nil] at moved
      rw [List.foldl_cons] at same ⊢
      have here :
          (Reindenting.alignContent style reindenting line).draft =
            reindenting.draft := by
        refine alignContent_draft_of_same first ?_
        rw [← moved.kept line fresh, same]
      have unchanged :
          (Reindenting.alignContent style reindenting line).texts =
            reindenting.texts :=
        congrArg (fun draft => textsOf draft.content) here
      exact (induction next others distinct (same.trans unchanged.symm)).trans
        here

end Reindenting

/-- Taking something out makes no change unless there is less afterwards. -/
theorem remove_eq_or (draft : Draft) (first last : Nat) :
    draft.remove first last = draft ∨
      (draft.remove first last).content.length < draft.content.length := by
  by_cases nothing : (Change.remove draft.content first last false).units = []
  · exact .inl (if_pos nothing)
  · have fits := Change.fits_remove draft.content first last false nothing
    have removed := fits.removed_le rfl
    have something := List.length_pos_iff.mpr nothing
    refine .inr ?_
    rw [Draft.remove, Draft.content_apply, Change.apply]
    simp only [Change.remove, List.length_append, List.length_take,
      List.length_drop] at removed something ⊢
    omega

/-- Taking units off lines makes no change unless there are fewer of them. -/
theorem foldl_outdentLine_of_same
    (unit : Text)
    (numbers : List Nat)
    (draft : Draft) :
    (numbers.foldl (outdentLine unit) draft).content.length ≤
        draft.content.length ∧
      ((numbers.foldl (outdentLine unit) draft).content.length =
          draft.content.length →
        numbers.foldl (outdentLine unit) draft = draft) := by
  induction numbers generalizing draft with
  | nil => exact ⟨Nat.le_refl _, fun _ => rfl⟩
  | cons line numbers induction =>
      have one :
          outdentLine unit draft line = draft ∨
            (outdentLine unit draft line).content.length <
              draft.content.length :=
        remove_eq_or draft _ _
      rcases induction (outdentLine unit draft line) with ⟨shorter, same⟩
      rw [List.foldl_cons]
      rcases one with kept | less
      · rw [kept] at shorter same ⊢
        exact ⟨shorter, same⟩
      · exact ⟨by omega, fun equal => by omega⟩

/-- A content taken apart into lines, some of them read as texts. -/
theorem content_eq_intercalate
    {content : List CodeUnit}
    {first count : Nat}
    (present : first + count ≤ (linesOf content).length) :
    content =
      [separator].intercalate
        ((linesOf content).take first ++
          ((textsFrom content first count).map Utf16.encode ++
            (linesOf content).drop (first + count))) := by
  rw [map_encode_textsFrom present, ← List.drop_drop, List.take_append_drop,
    List.take_append_drop, intercalate_linesOf]

/-- Lines that are toggled without a change of the content are as they were. -/
theorem toggle_textsFrom_of_same
    {content : List CodeUnit}
    (settled : Settled content)
    {first count : Nat}
    (present : first + count ≤ (linesOf content).length)
    {mark : Text}
    (same :
      [separator].intercalate
          ((linesOf content).take first ++
            ((Commenting.toggle mark (textsFrom content first count)).map
                contentOf ++
              (linesOf content).drop (first + count))) =
        content) :
    Commenting.toggle mark (textsFrom content first count) =
      textsFrom content first count := by
  have plain (text : Text) (listed : text ∈ textsFrom content first count) :
      ∀ unit ∈ Utf16.encode text, endsLine unit = false := by
    rw [textsFrom_eq present] at listed
    have member := List.mem_of_mem_drop (List.mem_of_mem_take listed)
    exact (settled.isLine member).whole
  refine Commenting.toggle_eq_self plain ?_
  have equal := congrArg inside (same.trans (content_eq_intercalate present))
  simp only [inside_intercalate, List.flatten_append, inside_append,
    inside_flatten_contentOf, flatten_map_encode] at equal
  exact Nat.add_right_cancel (Nat.add_left_cancel equal)

section Same

variable {editor : Editor}

theorem document_finish_of_draft_eq
    {draft : Draft}
    (same : draft = editor.draft)
    (memo : Memo)
    (span : Span) :
    (editor.finish draft memo span).editor.document = editor.document :=
  commit_of_changes_eq_nil (congrArg Draft.changes same) span

variable (sound : editor.Sound)

include sound

theorem Sound.document_reindentLine_of_same
    (same : editor.reindentLine.editor.content = editor.content) :
    editor.reindentLine.editor.document = editor.document := by
  have lines := (congrArg textsOf same).symm.trans sound.lines_reindentLine
  have finished :
      editor.reindentLine.editor.document =
        (editor.finishReindenting
          (editor.reindenting.alignLine editor.style editor.cursorLine
            editor.cursorColumn).1).editor.document := rfl
  rw [finished]
  exact document_finish_of_draft_eq
    (Reindenting.alignLine_draft_of_same (cursorLine_lt_length editor)
      (congrArg (List.getD · _ []) lines.symm)) _ _

theorem Sound.document_reindentSelection_of_same
    (same : editor.reindentSelection.editor.content = editor.content) :
    editor.reindentSelection.editor.document = editor.document := by
  have lines :=
    (congrArg textsOf same).symm.trans sound.lines_reindentSelection
  refine document_finish_of_draft_eq ?_ _ _
  exact sound.reindenting.foldl_alignContent_draft_of_same
    mem_selectedLines_lt_length List.nodup_range' lines.symm

theorem Sound.document_reindentDocument_of_same
    (same : editor.reindentDocument.1.editor.content = editor.content) :
    editor.reindentDocument.1.editor.document = editor.document := by
  have lines :=
    (congrArg textsOf same).symm.trans sound.lines_reindentDocument
  rcases sound.reindentDocument_of_tidy lines.symm with ⟨memo, tidy⟩
  rw [tidy]
  rfl

theorem Sound.document_toggleComment_of_same
    (same : editor.toggleComment.editor.content = editor.content) :
    editor.toggleComment.editor.document = editor.document := by
  rcases commentedLines_eq editor with ⟨first, more, numbers, present⟩
  rcases commenting_eq sound numbers present with ⟨isFrom, filled⟩
  have held :
      editor.toggleComment.editor.content = editor.commenting.content :=
    content_finish isFrom
  have kept :=
    toggle_textsFrom_of_same sound.settled present
      (filled.symm.trans (held.symm.trans same))
  have old :
      (editor.commentedLines.map fun line =>
          (textsOf editor.content).getD line []) =
        textsFrom editor.content first (more + 1) := by
    rw [numbers, textsFrom]
  have drafted : editor.commenting = editor.draft := by
    rw [commenting, old, kept, List.zip_eq_zipWith, List.zipWith_self]
    apply replaceLines_of_same
    intro line listed
    rcases List.mem_map.mp listed with ⟨text, _, rfl⟩
    rfl
  exact document_finish_of_draft_eq drafted _ _

theorem Sound.document_outdentSelection_of_same
    (same : editor.outdentSelection.editor.content = editor.content) :
    editor.outdentSelection.editor.document = editor.document := by
  refine document_finish_of_draft_eq ?_ _ _
  refine (foldl_outdentLine_of_same _ _ editor.draft).2 ?_
  have held : editor.outdentSelection.editor.content = _ :=
    content_finish (isFrom_foldl_outdentLine sound.draft editor.indentText
      editor.selectedLines)
  rw [← held, same]
  rfl

end Same

/-! ## One step -/

theorem document_placeCursor (editor : Editor) (cursor : Cursor) :
    (editor.placeCursor cursor).editor.document = editor.document := rfl

theorem document_finish
    (editor : Editor)
    (draft : Draft)
    (memo : Memo)
    (span : Span) :
    (editor.finish draft memo span).editor.document =
      editor.document.commit draft span := rfl

/-- Undoing once leads back from one editor to another, and redoing forth. -/
structure IsOneStep (before after : Editor) : Prop where
  added : after.document.past.length = before.document.past.length + 1
  undone : after.undo.editor.content = before.content
  redone : after.undo.editor.redo.editor.content = after.content

/-- A step can be undone and made again. -/
theorem isOneStep_of_latest
    {before after : Editor}
    {step : Step}
    (latest : after.document.past = step :: before.document.past)
    (leads : Leads before.content step.changes after.content) :
    before.IsOneStep after := by
  rcases undo?_eq latest leads after.cursor with ⟨undoing, undone⟩
  have back :
      after.undo.editor.document =
        { after.document with
          content := before.content
          past := before.document.past
          future := step :: after.document.future } := by
    rw [Editor.undo, undone]
    rfl
  have next :
      after.undo.editor.document.future = step :: after.document.future := by
    rw [back]
  have again :
      Leads after.undo.editor.document.content step.changes after.content := by
    rw [back]
    exact leads
  rcases redo?_eq next again after.undo.editor.cursor with ⟨redoing, redone⟩
  constructor
  · rw [latest, List.length_cons]
  · rw [content, back]
  · rw [Editor.redo, redone]
    rfl

/-- An edit block with changes is a step. -/
theorem isOneStep_of_commit
    {before after : Editor}
    {draft : Draft}
    (isFrom : draft.IsFrom before.content)
    (changed : draft.changes ≠ [])
    {cursor? : Option Nat}
    (committed :
      after.document = before.document.commit draft (.block cursor?)) :
    before.IsOneStep after := by
  rcases commit_block_of_changes_ne_nil isFrom changed cursor?
    with ⟨step, held, added, leads⟩
  rw [← committed] at held added
  refine isOneStep_of_latest added ?_
  rw [content, content, held]
  exact leads

/-- An edit block is one step if it makes a difference. -/
theorem IsBlock.isOneStep
    {before after : Editor}
    (isBlock : before.IsBlock after)
    (different : after.content ≠ before.content) :
    before.IsOneStep after := by
  rcases isBlock with ⟨draft, cursor?, isFrom, committed⟩
  refine isOneStep_of_commit isFrom ?_ committed
  intro unchanged
  rw [commit_of_changes_eq_nil unchanged] at committed
  exact different (congrArg Document.content committed)

theorem Sound.isOneStep_breakLine
    {editor : Editor}
    (sound : editor.Sound) :
    editor.IsOneStep editor.breakLine.editor := by
  have changed := List.ne_nil_of_mem (mem_changes_breaking sound)
  have committed :
      editor.breakLine.editor.document =
        editor.document.commit editor.breaking.1.draft
          (.block (some editor.cursor.position)) := by
    rw [breakLine_eq sound, Outcome.editor_andThen, document_placeCursor,
      Editor.finishReindenting, document_finish]
  exact isOneStep_of_commit (isFrom_breaking sound) changed committed

/-- The commands that edit several places in one edit block. -/
def blockCommands : List Command :=
  [.breakLine, .reindentLine, .reindentSelection, .reindentDocument,
    .toggleComment, .press .backtab]

section Perform

variable {editor : Editor} (sound : editor.Sound) {command : Command}

include sound

theorem Sound.isBlock_perform (listed : command ∈ blockCommands) :
    editor.IsBlock (editor.perform command).editor := by
  simp only [blockCommands, List.mem_cons, List.not_mem_nil, or_false]
    at listed
  rcases listed with rfl | rfl | rfl | rfl | rfl | rfl
  · exact sound.isBlock_breakLine
  · exact sound.isBlock_reindentLine
  · exact sound.isBlock_reindentSelection
  · exact sound.isBlock_reindentDocument
  · exact sound.isBlock_toggleComment
  · exact sound.isBlock_outdentSelection

/-- All but one of the commands leave no trace if they leave the content. -/
theorem Sound.document_perform_of_same
    (listed : command ∈ blockCommands)
    (noBreak : command ≠ .breakLine)
    (same : (editor.perform command).editor.content = editor.content) :
    (editor.perform command).editor.document = editor.document := by
  simp only [blockCommands, List.mem_cons, List.not_mem_nil, or_false]
    at listed
  rcases listed with rfl | rfl | rfl | rfl | rfl | rfl
  · exact absurd rfl noBreak
  · exact sound.document_reindentLine_of_same same
  · exact sound.document_reindentSelection_of_same same
  · exact sound.document_reindentDocument_of_same same
  · exact sound.document_toggleComment_of_same same
  · exact sound.document_outdentSelection_of_same same

end Perform

/--
In every session, a command that edits several places and comes out with
another content is one step of the history, which can be undone and made
again, and so is every line break.  The other commands leave the document with
its history and its saved state as it is if they leave its content.
-/
theorem undo_blockCommand_session
    (palette : Palette)
    (mode : Language.Mode)
    (text : Text)
    (commands : List Command)
    {command : Command}
    (listed : command ∈ blockCommands) :
    let editor := session palette mode text commands
    let after := (editor.perform command).editor
    (after.content ≠ editor.content ∨ command = .breakLine →
        editor.IsOneStep after) ∧
      (after.content = editor.content → command ≠ .breakLine →
        after.document = editor.document) := by
  have sound := sound_session palette mode text commands
  dsimp only
  constructor
  · rintro (different | rfl)
    · exact (sound.isBlock_perform listed).isOneStep different
    · exact sound.isOneStep_breakLine
  · intro same noBreak
    exact sound.document_perform_of_same listed noBreak same

/-- Two lines commented out, the first of them deeper, and back again. -/
theorem undo_blockCommand_sample :
    let editor :=
      session .dark .scallop (Text.ofString " a\n\nb") [.select 4 1]
    let after := (editor.perform .toggleComment).editor
    Command.toggleComment ∈ blockCommands ∧
      after.text = Text.ofString " // a\n\nb" ∧
      after.undo.editor.content = editor.content ∧
      after.undo.editor.redo.editor.content = after.content := by
  have listed : Command.toggleComment ∈ blockCommands := by
    simp [blockCommands]
  have step :=
    (undo_blockCommand_session .dark .scallop (Text.ofString " a\n\nb")
      [.select 4 1] listed).1 (.inl (by decide +kernel))
  exact ⟨listed, by decide +kernel, step.undone, step.redone⟩

/--
A line break in the place of a selected separator leaves the text as it is; it
is a step of the history all the same, and the document counts as modified.
-/
theorem breakLine_over_separator :
    let editor :=
      session .dark .scallop (Text.ofString "a\nb") [.select 2 1]
    let after := (editor.perform .breakLine).editor
    Command.breakLine ∈ blockCommands ∧
      after.text = editor.text ∧
      after.content = editor.content ∧
      editor.document.past.length = 0 ∧
      after.document.past.length = 1 ∧
      editor.document.isModified = false ∧
      after.document.isModified = true := by
  refine ⟨by simp [blockCommands], ?_⟩
  decide +kernel

end Editor

end ClauseEditor
