import ClauseEditor.Proofs.Editor.Tidying

/-!
# Lines moved in any order

A line can be moved to its column by itself or together with the others that a
selection touches.  The column depends on the lines above, which may or may not
have been moved by then; but a line that was moved is lexically alike to what
it was, so the columns of all lines stay those that the lines had at first.  A
line that is moved twice is at its column already the second time.

Hence the order in which lines are moved makes no difference, and neither does
what the memo remembers on the way: a line that is not blank becomes the line
that reindenting the whole text makes of it as soon as it is moved once.
-/

namespace ClauseEditor

namespace Indent

/--
The lines `new` are what the lines `old` become when those with the given
numbers are moved to their columns.  Of a blank line that is moved no more is
told than that it stays blank.
-/
structure Moved
    (style : Style)
    (old : List Text)
    (numbers : List Nat)
    (new : List Text) :
    Prop where
  alike : LinesAlike old new
  isBlank_eq (line : Nat) :
    Text.isBlank (new.getD line []) = Text.isBlank (old.getD line [])
  moved (line : Nat) :
    line ∈ numbers → Text.isBlank (old.getD line []) = false →
      new.getD line [] =
        tidied style (columnIn style old line) (old.getD line [])
  kept (line : Nat) :
    line ∉ numbers → new.getD line [] = old.getD line []

/-- The cursor makes no difference to what a line becomes. -/
theorem line_aligned_congr
    (tabWidth : Int)
    (line : Text)
    (column other target : Int) :
    (aligned tabWidth line column target).line =
      (aligned tabWidth line other target).line := by
  rw [aligned, aligned]
  split <;> rfl

theorem line_aligned_of_not_isBlank
    {line : Text}
    (visible : Text.isBlank line = false)
    (style : Style)
    (column target : Int) :
    (aligned style.tabWidth line column target).line =
      tidied style target line := by
  rw [tidied, if_neg (ne_true_of_eq_false visible)]
  exact line_aligned_congr style.tabWidth line column 0 target

namespace Moved

variable
    {style : Style}
    {old new : List Text}
    {numbers : List Nat}

theorem refl (style : Style) (lines : List Text) :
    Moved style lines [] lines where
  alike := .refl lines
  isBlank_eq _ := rfl
  moved _ member := absurd member List.not_mem_nil
  kept _ _ := rfl

/-- Only which lines are moved counts. -/
theorem of_mem_iff
    (progress : Moved style old numbers new)
    {others : List Nat}
    (same : ∀ line, line ∈ others ↔ line ∈ numbers) :
    Moved style old others new where
  alike := progress.alike
  isBlank_eq := progress.isBlank_eq
  moved line member := progress.moved line ((same line).mp member)
  kept line absent :=
    progress.kept line fun member => absent ((same line).mpr member)

/-- A blank line need not be moved. -/
theorem skip
    (progress : Moved style old numbers new)
    {line : Nat}
    (isBlank : Text.isBlank (new.getD line []) = true) :
    Moved style old (line :: numbers) new where
  alike := progress.alike
  isBlank_eq := progress.isBlank_eq
  moved other member visible := by
    rcases List.mem_cons.mp member with rfl | before
    · rw [← progress.isBlank_eq, isBlank] at visible
      exact absurd visible (by decide)
    · exact progress.moved other before visible
  kept other absent :=
    progress.kept other fun member =>
      absent (List.mem_cons_of_mem line member)

/-- One more line goes to the column that it has among the lines as they are. -/
theorem set
    (progress : Moved style old numbers new)
    {line : Nat}
    (present : line < new.length)
    (column : Int) :
    Moved style old (line :: numbers)
      (new.set line
        (aligned style.tabWidth (new.getD line []) column
          (columnIn style new line)).line) := by
  have step :
      LinesAlike new
        (new.set line
          (aligned style.tabWidth (new.getD line []) column
            (columnIn style new line)).line) :=
    .set new line (.aligned style.tabWidth _ column _)
  have here :
      (new.set line
          (aligned style.tabWidth (new.getD line []) column
            (columnIn style new line)).line).getD line [] =
        (aligned style.tabWidth (new.getD line []) column
          (columnIn style new line)).line := by
    rw [List.getD_eq_getElem?_getD, List.getElem?_set_self present,
      Option.getD_some]
  have elsewhere {other : Nat} (different : line ≠ other) :
      (new.set line
          (aligned style.tabWidth (new.getD line []) column
            (columnIn style new line)).line).getD other [] =
        new.getD other [] := by
    rw [List.getD_eq_getElem?_getD, List.getElem?_set_ne different,
      List.getD_eq_getElem?_getD]
  constructor
  · exact progress.alike.trans step
  · intro other
    by_cases same : line = other
    · subst other
      rw [here, isBlank_aligned, progress.isBlank_eq]
    · rw [elsewhere same, progress.isBlank_eq]
  · intro other member visible
    by_cases same : line = other
    · subst other
      have stillVisible : Text.isBlank (new.getD line []) = false := by
        rw [progress.isBlank_eq, visible]
      rw [here, ← progress.alike.columnIn_eq,
        line_aligned_of_not_isBlank stillVisible]
      -- The line is either as it was or at its column already.
      by_cases before : line ∈ numbers
      · rw [progress.moved line before visible, tidied_tidied]
      · rw [progress.kept line before]
    · rw [elsewhere same]
      rcases List.mem_cons.mp member with rfl | before
      · exact absurd rfl same
      · exact progress.moved other before visible
  · intro other absent
    rw [List.mem_cons, not_or] at absent
    rw [elsewhere (Ne.symm absent.1), progress.kept other absent.2]

/-- Lists of the same length agree where they agree up to a default. -/
theorem getElem?_eq_of_getD_eq
    {left right : List Text}
    (length_eq : left.length = right.length)
    {line : Nat}
    (same : left.getD line [] = right.getD line []) :
    left[line]? = right[line]? := by
  rcases Nat.lt_or_ge line left.length with inside | outside
  · have other : line < right.length := length_eq ▸ inside
    rw [List.getD_eq_getElem _ _ inside, List.getD_eq_getElem _ _ other]
      at same
    rw [List.getElem?_eq_getElem inside, List.getElem?_eq_getElem other, same]
  · rw [List.getElem?_eq_none outside,
      List.getElem?_eq_none (length_eq ▸ outside)]

theorem getElem?_of_mem
    (progress : Moved style old numbers new)
    {line : Nat}
    (member : line ∈ numbers)
    (visible : Text.isBlank (old.getD line []) = false) :
    new[line]? = (tidiedLines style old)[line]? := by
  have lengths : new.length = (tidiedLines style old).length := by
    rw [← progress.alike.length_eq,
      (linesAlike_tidiedLines style old).length_eq]
  apply getElem?_eq_of_getD_eq lengths
  have inside : line < old.length := by
    apply Nat.lt_of_not_le
    intro outside
    rw [List.getD_eq_default _ _ outside] at visible
    exact absurd visible (by decide)
  have chosen : line ∈ List.range old.length := List.mem_range.mpr inside
  rw [progress.moved line member visible, ← tidiedAt_range,
    getD_tidiedAt chosen]

theorem getElem?_of_notMem
    (progress : Moved style old numbers new)
    {line : Nat}
    (absent : line ∉ numbers) :
    new[line]? = old[line]? :=
  getElem?_eq_of_getD_eq progress.alike.length_eq.symm
    (progress.kept line absent)

end Moved

end Indent

namespace Editor

open Document
open Indent

/-! ## Edit blocks -/

namespace Reindenting

variable
    {content : List CodeUnit}
    {reindenting : Reindenting}
    {style : Style}
    {old : List Text}
    {numbers : List Nat}
    {line : Nat}

theorem Sound.moved_alignLine
    (sound : reindenting.Sound content)
    (progress : Moved style old numbers reindenting.texts)
    (present : line < reindenting.texts.length)
    (column : Nat) :
    Moved style old (line :: numbers)
      (reindenting.alignLine style line column).1.texts := by
  have inside : line < (linesOf reindenting.draft.content).length := by
    rwa [length_textsOf] at present
  rw [texts, alignLine_texts inside, sound.placed_eq]
  exact progress.set present column

theorem Sound.moved_alignContent
    (sound : reindenting.Sound content)
    (progress : Moved style old numbers reindenting.texts)
    (present : line < reindenting.texts.length) :
    Moved style old (line :: numbers)
      (Reindenting.alignContent style reindenting line).texts := by
  rw [Reindenting.alignContent]
  split
  · rename_i isBlank
    exact progress.skip isBlank
  · exact sound.moved_alignLine progress present 0

theorem Sound.moved_foldl_alignContent
    (sound : reindenting.Sound content)
    (progress : Moved style old numbers reindenting.texts)
    {selected : List Nat}
    (present : ∀ line ∈ selected, line < reindenting.texts.length) :
    Moved style old (selected ++ numbers)
      (selected.foldl (Reindenting.alignContent style) reindenting).texts := by
  induction selected generalizing reindenting numbers with
  | nil => exact progress
  | cons line selected induction =>
      have first := present line List.mem_cons_self
      have rest :
          ∀ other ∈ selected,
            other <
              (Reindenting.alignContent style reindenting
                line).texts.length := by
        intro other member
        rw [alignContent_length first style]
        exact present other (List.mem_cons_of_mem line member)
      have done :=
        induction (sound.alignContent first style)
          (sound.moved_alignContent progress first) rest
      refine done.of_mem_iff fun other => ?_
      rw [List.cons_append, List.mem_cons, List.mem_append, List.mem_append,
        List.mem_cons]
      exact or_left_comm

end Reindenting

/-! ## Commands -/

/-- Commands that place the cursor or move lines to their columns. -/
def Command.isRealigning : Command → Bool
  | .select _ _ | .selectEnd | .reindentLine | .reindentSelection => true
  | _ => false

/-- The lines that a command moves to their columns. -/
def covered (editor : Editor) : Command → List Nat
  | .reindentLine => [editor.cursorLine]
  | .reindentSelection => editor.selectedLines
  | _ => []

/-- The lines that one of some commands moves to its column. -/
def coveredBy (editor : Editor) : List Command → List Nat
  | [] => []
  | command :: commands =>
    editor.covered command ++
      (editor.perform command).editor.coveredBy commands

theorem editor_performAll_cons
    (editor : Editor)
    (command : Command)
    (commands : List Command) :
    (editor.performAll (command :: commands)).editor =
      ((editor.perform command).editor.performAll commands).editor := by
  have each := editor_foldl_andThen fun command editor =>
    editor.perform command
  exact (each (command :: commands) editor.stay).trans
    (each commands (editor.perform command).editor.stay).symm

section Commands

variable
    {editor : Editor}
    {style : Style}
    {old : List Text}
    {numbers : List Nat}

theorem Sound.moved_reindentLine
    (sound : editor.Sound)
    (progress : Moved editor.style old numbers editor.document.lines) :
    Moved editor.style old (editor.cursorLine :: numbers)
      editor.reindentLine.editor.document.lines := by
  rw [sound.lines_reindentLine]
  exact sound.reindenting.moved_alignLine progress
    (cursorLine_lt_length editor) _

theorem Sound.moved_reindentSelection
    (sound : editor.Sound)
    (progress : Moved editor.style old numbers editor.document.lines) :
    Moved editor.style old (editor.selectedLines ++ numbers)
      editor.reindentSelection.editor.document.lines := by
  rw [sound.lines_reindentSelection]
  exact sound.reindenting.moved_foldl_alignContent progress
    mem_selectedLines_lt_length

/-- A command moves the lines that it covers and no others. -/
theorem Sound.moved_perform
    (sound : editor.Sound)
    {command : Command}
    (realigning : command.isRealigning = true)
    (progress : Moved editor.style old numbers editor.document.lines) :
    (editor.perform command).editor.style = editor.style ∧
      Moved editor.style old (editor.covered command ++ numbers)
        (editor.perform command).editor.document.lines := by
  cases command with
  | select position anchor => exact ⟨rfl, progress⟩
  | selectEnd => exact ⟨rfl, progress⟩
  | reindentLine => exact ⟨rfl, sound.moved_reindentLine progress⟩
  | reindentSelection => exact ⟨rfl, sound.moved_reindentSelection progress⟩
  | _ => exact absurd realigning Bool.false_ne_true

/-- Commands one after another move all lines that any of them covers. -/
theorem Sound.moved_performAll
    (sound : editor.Sound)
    {commands : List Command}
    (realigning : ∀ command ∈ commands, command.isRealigning = true)
    (progress : Moved editor.style old numbers editor.document.lines) :
    Moved editor.style old (editor.coveredBy commands ++ numbers)
      (editor.performAll commands).editor.document.lines := by
  induction commands generalizing editor numbers with
  | nil => exact progress
  | cons command commands induction =>
      have first := realigning command List.mem_cons_self
      rcases sound.moved_perform first progress with ⟨sameStyle, next⟩
      rw [← sameStyle] at next
      have done :=
        induction (sound.perform command)
          (fun other member =>
            realigning other (List.mem_cons_of_mem command member))
          next
      rw [sameStyle] at done
      rw [editor_performAll_cons]
      refine done.of_mem_iff fun line => ?_
      simp only [coveredBy, List.mem_append]
      rw [or_assoc, or_left_comm]

end Commands

/--
When commands place the cursor and move lines to their columns, in any order
and as often as they like, each line that they cover becomes the line of the
reindented text unless it is blank, and each line that they do not cover stays
as it is.
-/
theorem reindent_any_order_session
    (palette : Palette)
    (mode : Language.Mode)
    (text : Text)
    (earlier : List Command)
    {commands : List Command}
    (realigning : ∀ command ∈ commands, command.isRealigning = true) :
    let editor := session palette mode text earlier
    let old := editor.document.lines
    let new := (editor.performAll commands).editor.document.lines
    ∃ tidy : Text,
      reindentText editor.style (Text.ofLines old) = .ok tidy ∧
        new.length = tidy.lines.length ∧
        (∀ line ∈ editor.coveredBy commands,
          Text.isBlank (old.getD line []) = false →
            new[line]? = tidy.lines[line]?) ∧
        ∀ line ∉ editor.coveredBy commands, new[line]? = old[line]? := by
  have sound := sound_session palette mode text earlier
  intro editor old new
  have progress : Moved editor.style old (editor.coveredBy commands) new := by
    have all := sound.moved_performAll realigning (.refl editor.style old)
    rwa [List.append_nil] at all
  rcases sound.exists_reindentText with ⟨tidy, reindented, tidyLines⟩
  refine ⟨tidy, reindented, ?_, ?_, ?_⟩
  · rw [tidyLines, ← progress.alike.length_eq]
    exact (linesAlike_tidiedLines editor.style old).length_eq
  · intro line member visible
    rw [tidyLines]
    exact progress.getElem?_of_mem member visible
  · intro line absent
    exact progress.getElem?_of_notMem absent

/-- A bracket and the line below it, the latter first and then once more. -/
theorem reindent_any_order_sample :
    (∀ command ∈ [Command.select 8 4, .reindentSelection, .select 0 2,
        .reindentLine, .reindentSelection],
      command.isRealigning = true) ∧
      ∃ tidy : Text,
        reindentText
            (session .dark .scallop (Text.ofString " f(\n\ty\n)") []).style
            (Text.ofLines
              (session .dark .scallop (Text.ofString " f(\n\ty\n)")
                []).document.lines) =
            .ok tidy ∧
          tidy.lines[1]? = some (Text.ofString "  y") ∧
          ((session .dark .scallop (Text.ofString " f(\n\ty\n)")
            []).performAll
              [.select 8 4, .reindentSelection, .select 0 2, .reindentLine,
                .reindentSelection]).editor.document.lines[1]? =
            tidy.lines[1]? := by
  have realigning :
      ∀ command ∈ [Command.select 8 4, .reindentSelection, .select 0 2,
          .reindentLine, .reindentSelection],
        command.isRealigning = true := by
    decide
  rcases reindent_any_order_session .dark .scallop
      (Text.ofString " f(\n\ty\n)") [] realigning
    with ⟨tidy, reindented, _, same, _⟩
  have moved := same 1 (by decide +kernel) (by decide +kernel)
  refine ⟨realigning, tidy, reindented, ?_, moved⟩
  rw [← moved]
  decide +kernel

end Editor

end ClauseEditor
