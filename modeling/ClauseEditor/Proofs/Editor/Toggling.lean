import ClauseEditor.Proofs.Commenting
import ClauseEditor.Proofs.Document.Places
import ClauseEditor.Proofs.Editor.Session
import ClauseEditor.Proofs.Text.Stripping

/-!
# Toggling comments twice

Toggling replaces lines of the document, most of them by themselves.  A cursor
in a line that stays the same keeps its place, and one in a line that changes
goes to the end of that line.  So every end of the selection stays in its line,
and one at the start of the last line, which then does not change, stays there.
The second time the same lines are toggled, as they have become.

If the first time was to comment lines out, each of them is read from the
document as it was put there, and the second time uncomments all of them.
-/

namespace ClauseEditor.Editor

open Document

/-! ## Following a position -/

/-- Where a position goes when a line that starts at `first` is replaced. -/
def follow (first : Nat) (old new : Text) (position : Nat) : Nat :=
  if old = new ∨ position < first then position
  else if position ≤ first + (Utf16.encode old).length then
    first + (contentOf new).length
  else position - (Utf16.encode old).length + (contentOf new).length

/-- Where a position goes when lines one after another are replaced. -/
def followAll (first : Nat) : List (Text × Text) → Nat → Nat
  | [], position => position
  | (old, new) :: lines, position =>
    followAll (first + (contentOf new).length + 1) lines
      (follow first old new position)

theorem follow_mono
    (first : Nat)
    (old new : Text)
    {position later : Nat}
    (ordered : position ≤ later) :
    follow first old new position ≤ follow first old new later := by
  rw [follow, follow]
  grind

/-- What stands below a line stays below it. -/
theorem follow_behind
    {old : Text}
    (whole : contentOf old = Utf16.encode old)
    (first : Nat)
    (new : Text)
    (distance : Nat) :
    follow first old new (first + (contentOf old).length + 1 + distance) =
      first + (contentOf new).length + 1 + distance := by
  rw [follow, ← whole]
  by_cases same : old = new
  · rw [if_pos (.inl same), same]
  · have inside :
        ¬ (old = new ∨
          first + (contentOf old).length + 1 + distance < first) := by
      rw [not_or]
      exact ⟨same, by omega⟩
    rw [if_neg inside, if_neg (by omega)]
    omega

theorem followAll_mono
    (first : Nat)
    (lines : List (Text × Text))
    {position later : Nat}
    (ordered : position ≤ later) :
    followAll first lines position ≤ followAll first lines later := by
  induction lines generalizing first position later with
  | nil => exact ordered
  | cons line lines induction =>
      exact induction _ (follow_mono first line.1 line.2 ordered)

theorem followAll_of_lt
    {first position : Nat}
    (before : position < first)
    (lines : List (Text × Text)) :
    followAll first lines position = position := by
  induction lines generalizing first with
  | nil => rfl
  | cons line lines induction =>
      rw [followAll, follow, if_pos (.inr before)]
      exact induction (by omega)

/-- A column of a line becomes the same one, or the end of another line. -/
theorem followAll_place
    {lines : List (Text × Text)}
    (whole : ∀ line ∈ lines, contentOf line.1 = Utf16.encode line.1)
    {line column : Nat}
    (present : line < lines.length)
    (within : column ≤ (contentOf lines[line].1).length)
    (first : Nat) :
    followAll first lines
        (first +
          (above (((lines.map Prod.fst).map contentOf).take line)).length +
          column) =
      first +
        (above (((lines.map Prod.snd).map contentOf).take line)).length +
        (if lines[line].1 = lines[line].2 then column
          else (contentOf lines[line].2).length) := by
  induction lines generalizing first line with
  | nil => exact absurd present (Nat.not_lt_zero line)
  | cons pair lines induction =>
      have units := whole pair List.mem_cons_self
      cases line with
      | zero =>
          simp only [List.getElem_cons_zero, List.take_zero, above_nil,
            List.length_nil, Nat.add_zero] at within ⊢
          rw [followAll, follow, ← units]
          by_cases same : pair.1 = pair.2
          · rw [if_pos (.inl same), if_pos same, ← same,
              followAll_of_lt (by omega)]
          · have inside : ¬ (pair.1 = pair.2 ∨ first + column < first) := by
              simp [same]
            rw [if_neg inside, if_pos (by omega), if_neg same,
              followAll_of_lt (by omega)]
      | succ line =>
          have rest :=
            induction (fun other member =>
                whole other (List.mem_cons_of_mem pair member))
              (Nat.lt_of_succ_lt_succ present) within
              (first + (contentOf pair.2).length + 1)
          simp only [List.map_cons, List.take_succ_cons, above_cons,
            List.length_append, List.length_cons, List.getElem_cons_succ]
            at rest ⊢
          generalize (above (((lines.map Prod.fst).map contentOf).take
            line)).length = distance at rest ⊢
          have behind :
              first + ((contentOf pair.1).length + (distance + 1)) + column =
                first + (contentOf pair.1).length + 1 +
                  (distance + column) := by
            omega
          rw [followAll, behind, follow_behind units, ← Nat.add_assoc, rest]
          omega

/-! ### Cursors of drafts -/

/-- A change with no units moves nothing, so it need not be made. -/
theorem cursor_apply (draft : Draft) (change : Change) :
    (draft.apply change).cursor = draft.cursor.move change := by
  rw [Draft.apply]
  split
  · rename_i empty
    have kept (position : Nat) : change.move position = position := by
      rw [Change.move]
      split
      · rfl
      · rename_i behind
        rw [not_or, Nat.not_lt] at behind
        rw [empty]
        cases change.kind with
        | insertion => rfl
        | removal => exact Nat.max_eq_right behind.1
    rw [Cursor.move, kept, kept]
  · rfl

section Replace

variable {draft : Draft} {old : Text}

theorem cursor_replaceLine
    {first : Nat}
    (inside : first + (Utf16.encode old).length ≤ draft.content.length)
    (new : Text) :
    (replaceLine draft first old new).cursor =
      ⟨follow first old new draft.cursor.position,
        follow first old new draft.cursor.anchor⟩ := by
  rw [replaceLine]
  split
  · rename_i same
    rw [follow, follow, if_pos (.inl same), if_pos (.inl same)]
  · rename_i different
    have width :
        (Change.remove draft.content first
            (first + (Utf16.encode old).length) false).units.length =
          (Utf16.encode old).length := by
      rw [Change.remove, List.length_drop, List.length_take]
      omega
    have moved (position : Nat) :
        (Change.insert first (contentOf new)).move
            ((Change.remove draft.content first
              (first + (Utf16.encode old).length) false).move position) =
          follow first old new position := by
      simp only [Change.move, width, follow, different, false_or]
      simp only [Change.remove, Change.insert]
      grind
    rw [Draft.insert, Draft.remove, cursor_apply, cursor_apply, Cursor.move,
      Cursor.move, moved, moved]

theorem length_replaceLine
    {first : Nat}
    (inside : first + (contentOf old).length ≤ draft.content.length)
    (whole : contentOf old = Utf16.encode old)
    (new : Text) :
    (replaceLine draft first old new).content.length +
        (contentOf old).length =
      draft.content.length + (contentOf new).length := by
  rw [replaceLine]
  split
  · rename_i same
    rw [same]
  · rw [Draft.content_replace draft (by omega), ← whole, List.length_append,
      List.length_append, List.length_take, List.length_drop]
    omega

/-- Each end of the selection is followed from line to line. -/
theorem cursor_replaceLines
    {lines : List (Text × Text)}
    (whole : ∀ line ∈ lines, contentOf line.1 = Utf16.encode line.1)
    {first : Nat}
    (inside :
      first + (above ((lines.map Prod.fst).map contentOf)).length ≤
        draft.content.length + 1) :
    (replaceLines draft first lines).cursor =
      ⟨followAll first lines draft.cursor.position,
        followAll first lines draft.cursor.anchor⟩ := by
  induction lines generalizing draft first with
  | nil => rfl
  | cons line lines induction =>
      rcases line with ⟨old, new⟩
      have units := whole _ List.mem_cons_self
      simp only [List.map_cons, above_cons, List.length_append,
        List.length_cons] at inside units
      have here : first + (contentOf old).length ≤ draft.content.length := by
        omega
      have length := length_replaceLine here units new
      rw [replaceLines_cons,
        induction fun other member =>
          whole other (List.mem_cons_of_mem _ member)]
      · rw [cursor_replaceLine (units ▸ here)]
        rfl
      · omega

end Replace

/-! ## Places in rewritten lines -/

section Rewritten

variable
    {lines : List (Text × Text)}
    (nonempty : lines ≠ [])
    (areLines : ∀ line ∈ lines, IsLine line.1 ∧ IsLine line.2)

include nonempty areLines

/-- A position keeps its line, and its column too if the line is the same. -/
theorem exists_columns
    {position : Nat}
    (inside :
      position ≤ (contentOfLines (lines.map Prod.fst)).length) :
    ∃ line column,
      ∃ present : line < lines.length,
        lineAt (contentOfLines (lines.map Prod.fst)) position = line ∧
          position =
            lineStart (contentOfLines (lines.map Prod.fst)) line + column ∧
          lineAt (contentOfLines (lines.map Prod.snd))
              (followAll 0 lines position) =
            line ∧
          followAll 0 lines position =
            lineStart (contentOfLines (lines.map Prod.snd)) line +
              (if lines[line].1 = lines[line].2 then column
                else (contentOf lines[line].2).length) := by
  have oldLines :
      linesOf (contentOfLines (lines.map Prod.fst)) =
        (lines.map Prod.fst).map contentOf :=
    linesOf_contentOfLines (by simpa using nonempty) fun text listed => by
      rcases List.mem_map.mp listed with ⟨line, member, rfl⟩
      exact (areLines line member).1
  have newLines :
      linesOf (contentOfLines (lines.map Prod.snd)) =
        (lines.map Prod.snd).map contentOf :=
    linesOf_contentOfLines (by simpa using nonempty) fun text listed => by
      rcases List.mem_map.mp listed with ⟨line, member, rfl⟩
      exact (areLines line member).2
  rcases exists_column inside with
    ⟨line, column, listed, within, here, placed⟩
  have present : line < lines.length := by
    simpa [oldLines] using listed
  have stays :
      line < (linesOf (contentOfLines (lines.map Prod.snd))).length := by
    simpa [newLines] using present
  have oldLine :
      (linesOf (contentOfLines (lines.map Prod.fst)))[line] =
        contentOf lines[line].1 := by
    simp [oldLines]
  have newLine :
      (linesOf (contentOfLines (lines.map Prod.snd)))[line] =
        contentOf lines[line].2 := by
    simp [newLines]
  rw [oldLine] at within
  have followed :=
    followAll_place (fun pair member => (areLines pair member).1.contentOf_eq)
      present within 0
  rw [← oldLines, ← newLines, ← lineStart_eq, ← lineStart_eq, Nat.zero_add,
    Nat.zero_add, ← placed] at followed
  refine ⟨line, column, present, here, placed, ?_, followed⟩
  rw [followed]
  refine lineAt_lineStart_add stays ?_
  rw [newLine]
  split
  · rename_i same
    rwa [← same]
  · exact Nat.le_refl _

end Rewritten

/-- The ends of a selection are followed in their order. -/
theorem first_followAll (lines : List (Text × Text)) (cursor : Cursor) :
    Cursor.first
        ⟨followAll 0 lines cursor.position, followAll 0 lines cursor.anchor⟩ =
      followAll 0 lines cursor.first := by
  rw [Cursor.first, Cursor.first]
  rcases Nat.le_total cursor.position cursor.anchor with ordered | ordered
  · rw [Nat.min_eq_left ordered,
      Nat.min_eq_left (followAll_mono 0 lines ordered)]
  · rw [Nat.min_eq_right ordered,
      Nat.min_eq_right (followAll_mono 0 lines ordered)]

theorem last_followAll (lines : List (Text × Text)) (cursor : Cursor) :
    Cursor.last
        ⟨followAll 0 lines cursor.position, followAll 0 lines cursor.anchor⟩ =
      followAll 0 lines cursor.last := by
  rw [Cursor.last, Cursor.last]
  rcases Nat.le_total cursor.position cursor.anchor with ordered | ordered
  · rw [Nat.max_eq_right ordered,
      Nat.max_eq_right (followAll_mono 0 lines ordered)]
  · rw [Nat.max_eq_left ordered,
      Nat.max_eq_left (followAll_mono 0 lines ordered)]

/-! ## The same lines again -/

/-- The lines of one editor have been rewritten in the other one. -/
structure Rewrites
    (lines : List (Text × Text))
    (before after : Editor) :
    Prop where
  nonempty : lines ≠ []
  areLines : ∀ line ∈ lines, IsLine line.1 ∧ IsLine line.2
  content_before : before.content = contentOfLines (lines.map Prod.fst)
  content_after : after.content = contentOfLines (lines.map Prod.snd)
  cursor_after :
    after.cursor =
      ⟨followAll 0 lines before.cursor.position,
        followAll 0 lines before.cursor.anchor⟩

section Rewrites

variable
    {lines : List (Text × Text)}
    {before after : Editor}
    (rewrites : Rewrites lines before after)

include rewrites

/--
The same lines are commented again if no other line has changed and no line
has become empty.
-/
theorem Rewrites.commentedLines_eq
    (first_le : before.cursor.first ≤ before.content.length)
    (last_le : before.cursor.last ≤ before.content.length)
    (elsewhere :
      ∀ line ∉ before.commentedLines, ∀ present : line < lines.length,
        lines[line].1 = lines[line].2)
    (filled : ∀ line ∈ lines, line.1 = line.2 ∨ contentOf line.2 ≠ []) :
    after.commentedLines = before.commentedLines := by
  rcases rewrites with ⟨nonempty, areLines, old, new, cursor⟩
  rw [old] at first_le last_le
  rcases exists_columns nonempty areLines first_le with
    ⟨firstLine, _, _, firstHere, _, firstThere, _⟩
  rcases exists_columns nonempty areLines last_le with
    ⟨lastLine, column, present, lastHere, placed, lastThere, followed⟩
  have numbers :
      before.commentedLines =
        List.range' firstLine
          ((if firstLine < lastLine ∧ column = 0 then lastLine - 1
            else lastLine) + 1 - firstLine) := by
    have atStart :
        before.cursor.last =
            lineStart (contentOfLines (lines.map Prod.fst)) lastLine ↔
          column = 0 := by
      omega
    simp only [commentedLines, old, firstHere, lastHere, atStart]
  have again :
      after.commentedLines =
        List.range' firstLine
          ((if firstLine < lastLine ∧
                (if lines[lastLine].1 = lines[lastLine].2 then column
                  else (contentOf lines[lastLine].2).length) = 0 then
              lastLine - 1
            else lastLine) + 1 - firstLine) := by
    have atStart :
        followAll 0 lines before.cursor.last =
            lineStart (contentOfLines (lines.map Prod.snd)) lastLine ↔
          (if lines[lastLine].1 = lines[lastLine].2 then column
            else (contentOf lines[lastLine].2).length) = 0 := by
      omega
    simp only [commentedLines, new, cursor, first_followAll, last_followAll,
      firstThere, lastThere, atStart]
  have together :
      firstLine < lastLine ∧
          (if lines[lastLine].1 = lines[lastLine].2 then column
            else (contentOf lines[lastLine].2).length) = 0 ↔
        firstLine < lastLine ∧ column = 0 := by
    constructor
    · rintro ⟨several, atStart⟩
      rcases filled _ (List.getElem_mem present) with same | filled
      · rw [if_pos same] at atStart
        exact ⟨several, atStart⟩
      · split at atStart
        · exact ⟨several, atStart⟩
        · exact absurd (List.length_eq_zero_iff.mp atStart) filled
    · rintro ⟨several, atStart⟩
      -- A last line that is left at its start is not among the lines.
      have outside : lastLine ∉ before.commentedLines := by
        rw [numbers, if_pos ⟨several, atStart⟩, List.mem_range'_1]
        omega
      rw [if_pos (elsewhere lastLine outside present)]
      exact ⟨several, atStart⟩
  rw [again, numbers]
  simp only [together]

end Rewrites

/-! ## Commented lines as lines of a document -/

/-- A line that is commented out is read as it was put into the document. -/
theorem isLine_comment
    {mark line : Text}
    (markIsLine : IsLine mark)
    (isLine : IsLine line)
    {position : Nat}
    (shallow : position ≤ Commenting.depth line) :
    IsLine (Commenting.comment mark position line) := by
  have plain := Text.isPlain_of_isBlank (Commenting.isBlank_take shallow)
  have parted := List.take_append_drop position line
  have behind :
      Utf16.decode (Utf16.encode (line.drop position)) =
        line.drop position :=
    Utf16.decode_encode_of_append (isLine.readBack.trans parted.symm)
  have space :
      Utf16.encode (Text.ofString " " ++ line.drop position) =
        CodeUnit.ofChar ' ' :: Utf16.encode (line.drop position) := rfl
  have spaceWhole :
      ∀ unit ∈ Utf16.encode (Text.ofString " "), endsLine unit = false := by
    decide
  constructor
  · intro unit member
    have whole := isLine.whole unit
    rw [← parted, Utf16.encode_append, List.mem_append] at whole
    simp only [Commenting.comment, Utf16.encode_append, List.mem_append]
      at member
    rcases member with ((before | marked) | spaced) | after
    · exact whole (.inl before)
    · exact markIsLine.whole unit marked
    · exact spaceWhole unit spaced
    · exact whole (.inr after)
  · rw [Commenting.comment, List.append_assoc, List.append_assoc,
      Utf16.encode_append, Utf16.decode_encode_append plain,
      Utf16.encode_append, space, Utf16.decode_append_cons, markIsLine.readBack,
      Utf16.decode_cons_of_not_isHigh, behind]
    · rfl
    · decide
    · decide

/-! ## Toggling as a rewriting of all lines -/

/-- Lines that become what they are. -/
def unchanged (texts : List Text) : List (Text × Text) :=
  texts.map fun text => (text, text)

/-- All lines of a content, with what they become when some are toggled. -/
def toggledFrom
    (mark : Text)
    (content : List CodeUnit)
    (first count : Nat) :
    List (Text × Text) :=
  let old := textsFrom content first count
  unchanged ((textsOf content).take first) ++
    (old.zip (Commenting.toggle mark old) ++
      unchanged ((textsOf content).drop (first + count)))

theorem same_of_mem_unchanged
    {texts : List Text}
    {line : Text × Text}
    (listed : line ∈ unchanged texts) :
    line.1 ∈ texts ∧ line.1 = line.2 := by
  rcases List.mem_map.mp listed with ⟨text, member, rfl⟩
  exact ⟨member, rfl⟩

section Toggled

variable
    {mark : Text}
    {content : List CodeUnit}
    {first count : Nat}

theorem map_fst_toggledFrom
    (present : first + count ≤ (linesOf content).length) :
    (toggledFrom mark content first count).map Prod.fst = textsOf content := by
  have lengths :
      (textsFrom content first count).length ≤
        (Commenting.toggle mark (textsFrom content first count)).length := by
    exact Nat.le_of_eq (Commenting.length_toggle _ _).symm
  simp only [toggledFrom, unchanged, List.map_append, List.map_map,
    List.map_fst_zip lengths, Function.comp_def, List.map_id']
  rw [textsFrom_eq present, ← List.drop_drop, List.take_append_drop,
    List.take_append_drop]

theorem map_snd_toggledFrom :
    (toggledFrom mark content first count).map Prod.snd =
      (textsOf content).take first ++
        (Commenting.toggle mark (textsFrom content first count) ++
          (textsOf content).drop (first + count)) := by
  have lengths :
      (Commenting.toggle mark (textsFrom content first count)).length ≤
        (textsFrom content first count).length := by
    exact Nat.le_of_eq (Commenting.length_toggle _ _)
  simp only [toggledFrom, unchanged, List.map_append, List.map_map,
    List.map_snd_zip lengths, Function.comp_def, List.map_id']

theorem replaceLines_append
    (draft : Draft)
    (start : Nat)
    (lines others : List (Text × Text)) :
    replaceLines draft start (lines ++ others) =
      replaceLines (replaceLines draft start lines)
        (start + (above ((lines.map Prod.snd).map contentOf)).length)
        others := by
  induction lines generalizing draft start with
  | nil => rfl
  | cons line lines induction =>
      rw [List.cons_append, replaceLines_cons, induction, replaceLines_cons]
      simp only [List.map_cons, above_cons, List.length_append,
        List.length_cons]
      congr 1
      omega

/-- Lines that stay the same need not be replaced. -/
theorem replaceLines_toggledFrom
    {draft : Draft}
    (settled : Settled draft.content) :
    replaceLines draft 0 (toggledFrom mark draft.content first count) =
      replaceLines draft (lineStart draft.content first)
        ((textsFrom draft.content first count).zip
          (Commenting.toggle mark (textsFrom draft.content first count))) := by
  have start :
      ((textsOf draft.content).take first).map contentOf =
        (linesOf draft.content).take first := by
    rw [List.map_take, settled.map_contentOf_textsOf]
  have same (draft : Draft) (start : Nat) (texts : List Text) :
      replaceLines draft start (unchanged texts) = draft :=
    replaceLines_of_same draft start fun _ listed =>
      (same_of_mem_unchanged listed).2
  have front :
      (unchanged ((textsOf draft.content).take first)).map Prod.snd =
        (textsOf draft.content).take first := by
    simp [unchanged, Function.comp_def]
  rw [toggledFrom, replaceLines_append, same, replaceLines_append, same,
    front, start, lineStart_eq, Nat.zero_add]

/-- A line of a content stays the same, or it is commented out. -/
theorem cases_of_mem_toggledFrom
    (present : first + count ≤ (linesOf content).length)
    (remaining :
      ¬ Commenting.AllCommented mark (textsFrom content first count))
    {line : Text × Text}
    (listed : line ∈ toggledFrom mark content first count) :
    line.1 ∈ textsOf content ∧
      (line.1 = line.2 ∨
        ∃ position ≤ Commenting.depth line.1,
          line.2 = Commenting.comment mark position line.1) := by
  rw [toggledFrom, List.mem_append, List.mem_append] at listed
  rcases listed with above | toggled | below
  · rcases same_of_mem_unchanged above with ⟨member, same⟩
    exact ⟨List.mem_of_mem_take member, .inl same⟩
  · rw [Commenting.toggle_of_not_allCommented remaining, Commenting.onContent,
      ← List.map_prod_left_eq_zip] at toggled
    rcases List.mem_map.mp toggled with ⟨text, member, rfl⟩
    have read := member
    rw [textsFrom_eq present] at read
    refine ⟨List.mem_of_mem_drop (List.mem_of_mem_take read), ?_⟩
    dsimp only
    split
    · exact .inl rfl
    · rename_i visible
      exact .inr
        ⟨_, Commenting.commentPosition_le member
          (Bool.eq_false_iff.mpr visible), rfl⟩
  · rcases same_of_mem_unchanged below with ⟨member, same⟩
    exact ⟨List.mem_of_mem_drop member, .inl same⟩

theorem same_of_notMem_range'
    (present : first + count ≤ (linesOf content).length)
    {line : Nat}
    (outside : line ∉ List.range' first count)
    (listed : line < (toggledFrom mark content first count).length) :
    (toggledFrom mark content first count)[line].1 =
      (toggledFrom mark content first count)[line].2 := by
  have above :
      (unchanged ((textsOf content).take first)).length = first := by
    rw [unchanged, List.length_map, List.length_take, length_textsOf]
    omega
  have toggled :
      ((textsFrom content first count).zip
        (Commenting.toggle mark
          (textsFrom content first count))).length = count := by
    rw [List.length_zip, Commenting.length_toggle, length_textsFrom,
      Nat.min_self]
  rw [List.mem_range'_1] at outside
  rcases Nat.lt_or_ge line first with before | behind
  · simp only [toggledFrom]
    rw [List.getElem_append_left (by omega)]
    exact (same_of_mem_unchanged (List.getElem_mem _)).2
  · simp only [toggledFrom]
    rw [List.getElem_append_right (by omega),
      List.getElem_append_right (by omega)]
    exact (same_of_mem_unchanged (List.getElem_mem _)).2

end Toggled

section Twice

variable
    {editor : Editor}
    (sound : editor.Sound)
    {first more : Nat}
    (numbers : editor.commentedLines = List.range' first (more + 1))
    (present : first + (more + 1) ≤ (linesOf editor.content).length)

include sound present

theorem Sound.content_toggleComment
    (numbers : editor.commentedLines = List.range' first (more + 1)) :
    editor.toggleComment.editor.content =
      contentOfLines
        ((toggledFrom editor.mode.lineComment editor.content first
          (more + 1)).map Prod.snd) := by
  rcases commenting_eq sound numbers present with ⟨isFrom, filled⟩
  have held :
      editor.toggleComment.editor.content = editor.commenting.content :=
    content_finish isFrom
  rw [held, filled, contentOfLines, map_snd_toggledFrom, List.map_append,
    List.map_append, List.map_take, List.map_drop,
    sound.settled.map_contentOf_textsOf]

theorem Sound.isLine_of_mem_toggledFrom
    {mark : Text}
    {line : Text × Text}
    (listed : line ∈ toggledFrom mark editor.content first (more + 1)) :
    IsLine line.1 := by
  have member := List.mem_map_of_mem (f := Prod.fst) listed
  rw [map_fst_toggledFrom present] at member
  exact sound.settled.isLine member

theorem Sound.cursor_toggleComment
    (numbers : editor.commentedLines = List.range' first (more + 1)) :
    let lines :=
      toggledFrom editor.mode.lineComment editor.content first (more + 1)
    editor.toggleComment.editor.cursor =
      ⟨followAll 0 lines editor.cursor.position,
        followAll 0 lines editor.cursor.anchor⟩ := by
  have drafted :
      editor.commenting =
        replaceLines editor.draft 0
          (toggledFrom editor.mode.lineComment editor.content first
            (more + 1)) := by
    have replaced :=
      @replaceLines_toggledFrom editor.mode.lineComment first (more + 1)
        editor.draft sound.settled
    rw [commenting, numbers]
    exact replaced.symm
  have inside :
      0 +
          (above
            (((toggledFrom editor.mode.lineComment editor.content first
              (more + 1)).map Prod.fst).map contentOf)).length ≤
        editor.draft.content.length + 1 := by
    rw [map_fst_toggledFrom present, sound.settled.map_contentOf_textsOf,
      above_linesOf, List.length_append, Nat.zero_add]
    exact Nat.le_refl _
  have held : editor.toggleComment.editor.cursor = editor.commenting.cursor :=
    rfl
  rw [held, drafted, cursor_replaceLines _ inside]
  · rfl
  · exact fun line listed =>
      (sound.isLine_of_mem_toggledFrom present listed).contentOf_eq

/-! ### Commenting lines out -/

section Comment

variable
    (markIsLine : IsLine editor.mode.lineComment)
    (remaining :
      ¬ Commenting.AllCommented editor.mode.lineComment
        (textsFrom editor.content first (more + 1)))

include remaining markIsLine

theorem Sound.areLines_toggledFrom :
    ∀ line ∈ toggledFrom editor.mode.lineComment editor.content first
        (more + 1),
      IsLine line.1 ∧ IsLine line.2 := by
  intro line listed
  have isLine := sound.isLine_of_mem_toggledFrom present listed
  rcases cases_of_mem_toggledFrom present remaining listed with
    ⟨_, same | ⟨position, shallow, commented⟩⟩
  · exact ⟨isLine, same ▸ isLine⟩
  · rw [commented]
    exact ⟨isLine, isLine_comment markIsLine isLine shallow⟩

include numbers

theorem Sound.rewrites_toggleComment :
    Rewrites
      (toggledFrom editor.mode.lineComment editor.content first (more + 1))
      editor editor.toggleComment.editor where
  nonempty := by
    intro none
    have texts :=
      @map_fst_toggledFrom editor.mode.lineComment _ _ _ present
    rw [none] at texts
    exact linesOf_ne_nil editor.content (List.map_eq_nil_iff.mp texts.symm)
  areLines := sound.areLines_toggledFrom present markIsLine remaining
  content_before := by
    rw [map_fst_toggledFrom present]
    exact sound.settled.contentOfLines_textsOf.symm
  content_after := sound.content_toggleComment present numbers
  cursor_after := sound.cursor_toggleComment present numbers

/-- Lines that were commented out are the ones to be toggled next. -/
theorem Sound.commentedLines_toggleComment :
    editor.toggleComment.editor.commentedLines = editor.commentedLines := by
  have rewrites :=
    sound.rewrites_toggleComment numbers present markIsLine remaining
  apply rewrites.commentedLines_eq
  · exact Nat.le_trans (Nat.min_le_left _ _) sound.position_le
  · exact Nat.max_le.mpr ⟨sound.position_le, sound.anchor_le⟩
  · intro line outside listed
    rw [numbers] at outside
    exact same_of_notMem_range' present outside listed
  · intro line listed
    rcases cases_of_mem_toggledFrom present remaining listed with
      ⟨_, same | ⟨position, shallow, commented⟩⟩
    · exact .inl same
    · have isLine := (rewrites.areLines line listed).2
      have width := Utf16.length_le_length_encode line.2
      refine .inr fun empty => ?_
      rw [← isLine.contentOf_eq, empty, commented, Commenting.comment] at width
      simp [Text.ofString] at width

/-- The lines are read from the document as they were put there. -/
theorem Sound.textsOf_toggleComment :
    textsOf editor.toggleComment.editor.content =
      (textsOf editor.content).take first ++
        (Commenting.toggle editor.mode.lineComment
            (textsFrom editor.content first (more + 1)) ++
          (textsOf editor.content).drop (first + (more + 1))) := by
  have rewrites :=
    sound.rewrites_toggleComment numbers present markIsLine remaining
  rw [rewrites.content_after, textsOf_contentOfLines, map_snd_toggledFrom]
  · exact fun none => rewrites.nonempty (List.map_eq_nil_iff.mp none)
  · intro text listed
    rcases List.mem_map.mp listed with ⟨line, member, rfl⟩
    exact (rewrites.areLines line member).2

/-- Commenting lines out and toggling once more leads back. -/
theorem Sound.toggleComment_toggleComment
    (visible : editor.mode.lineComment.StartsVisibly) :
    editor.toggleComment.editor.toggleComment.editor.content =
      editor.content := by
  have again :
      editor.toggleComment.editor.commentedLines =
        List.range' first (more + 1) :=
    (sound.commentedLines_toggleComment numbers present markIsLine
      remaining).trans numbers
  have texts :=
    sound.textsOf_toggleComment numbers present markIsLine remaining
  have above : ((textsOf editor.content).take first).length = first := by
    rw [List.length_take, length_textsOf]
    omega
  have toggled :
      (Commenting.toggle editor.mode.lineComment
        (textsFrom editor.content first (more + 1))).length = more + 1 := by
    rw [Commenting.length_toggle, length_textsFrom]
  have stillPresent :
      first + (more + 1) ≤
        (linesOf editor.toggleComment.editor.content).length := by
    rw [← length_textsOf, texts]
    simp only [List.length_append, above, toggled]
    omega
  have between :
      textsFrom editor.toggleComment.editor.content first (more + 1) =
        Commenting.toggle editor.mode.lineComment
          (textsFrom editor.content first (more + 1)) := by
    rw [textsFrom_eq stillPresent, texts, List.drop_left' above,
      List.take_left' toggled]
  have front :
      (textsOf editor.toggleComment.editor.content).take first =
        (textsOf editor.content).take first := by
    rw [texts, List.take_left' above]
  have rest :
      (textsOf editor.toggleComment.editor.content).drop
          (first + (more + 1)) =
        (textsOf editor.content).drop (first + (more + 1)) := by
    rw [← List.drop_drop, texts, List.drop_left' above,
      List.drop_left' toggled]
  have mode :
      editor.toggleComment.editor.mode.lineComment =
        editor.mode.lineComment := rfl
  calc
    editor.toggleComment.editor.toggleComment.editor.content =
        contentOfLines
          ((textsOf editor.content).take first ++
            (textsFrom editor.content first (more + 1) ++
              (textsOf editor.content).drop (first + (more + 1)))) := by
      rw [sound.toggleComment.content_toggleComment stillPresent again,
        map_snd_toggledFrom, front, rest, between, mode,
        Commenting.toggle_toggle visible remaining]
    _ = contentOfLines (textsOf editor.content) := by
      rw [textsFrom_eq present, ← List.drop_drop, List.take_append_drop,
        List.take_append_drop]
    _ = editor.content := sound.settled.contentOfLines_textsOf

end Comment

end Twice

/--
In every session, commenting lines out and toggling the comments once more
gives the content back, with the cursor left wherever the first time leaves
it.  The mark has to start with a character that is not blank, to hold no line
end of a document and, if there are halves of surrogate pairs in it, not to make
up a pair of two that are separate characters.
-/
theorem toggleComment_twice_session
    (palette : Palette)
    (mode : Language.Mode)
    (text : Text)
    (commands : List Command)
    (visible :
      (session palette mode text
        commands).mode.lineComment.StartsVisibly)
    (markIsLine :
      IsLine (session palette mode text commands).mode.lineComment)
    (remaining :
      ∃ line ∈ (session palette mode text commands).commentedLines,
        Text.isBlank
            ((session palette mode text commands).document.lines.getD line
              []) =
          false ∧
        Commenting.isCommented
            (session palette mode text commands).mode.lineComment
            ((session palette mode text commands).document.lines.getD line
              []) =
          false) :
    let editor := session palette mode text commands
    let twice := editor.toggleComment.editor.toggleComment.editor
    twice.content = editor.content ∧ twice.text = editor.text := by
  have sound := sound_session palette mode text commands
  generalize session palette mode text commands = editor
    at sound visible markIsLine remaining ⊢
  rcases commentedLines_eq editor with ⟨first, more, numbers, present⟩
  have uncommented :
      ¬ Commenting.AllCommented editor.mode.lineComment
        (textsFrom editor.content first (more + 1)) := by
    intro all
    rcases remaining with ⟨line, listed, lineVisible, plain⟩
    rw [numbers] at listed
    have member := all _ (List.mem_map_of_mem listed) lineVisible
    exact Bool.false_ne_true (plain.symm.trans member)
  have same :=
    sound.toggleComment_toggleComment numbers present markIsLine uncommented
      visible
  exact ⟨same, congrArg plainText same⟩

/--
A selection that ends at the start of a line, with a line that is a comment
already and a blank one in it.
-/
theorem toggleComment_twice_sample :
    let editor :=
      session .dark .scallop (Text.ofString "  a\n// b\n\nc") [.select 10 1]
    editor.mode.lineComment.StartsVisibly ∧
      IsLine editor.mode.lineComment ∧
      (∃ line ∈ editor.commentedLines,
        Text.isBlank (editor.document.lines.getD line []) = false ∧
          Commenting.isCommented editor.mode.lineComment
              (editor.document.lines.getD line []) =
            false) ∧
      editor.toggleComment.editor.text =
        Text.ofString "//   a\n// // b\n\nc" ∧
      editor.toggleComment.editor.toggleComment.editor.text =
        Text.ofString "  a\n// b\n\nc" := by
  intro editor
  have visible : editor.mode.lineComment.StartsVisibly :=
    ⟨'/', rfl, by decide⟩
  have markIsLine : IsLine editor.mode.lineComment :=
    ⟨by decide +kernel, by decide +kernel⟩
  have remaining :
      ∃ line ∈ editor.commentedLines,
        Text.isBlank (editor.document.lines.getD line []) = false ∧
          Commenting.isCommented editor.mode.lineComment
              (editor.document.lines.getD line []) =
            false :=
    ⟨0, by decide +kernel, by decide +kernel, by decide +kernel⟩
  have same :=
    (toggleComment_twice_session .dark .scallop
      (Text.ofString "  a\n// b\n\nc") [.select 10 1] visible markIsLine
      remaining).2
  refine ⟨visible, markIsLine, remaining, by decide +kernel, same.trans ?_⟩
  decide +kernel

/--
Marks without blank characters that do not come back from the document: two
halves of a surrogate pair, which are one character there, and the noncharacter
U+FDD0, which starts a new line.  Each line is commented out once more then.
-/
theorem toggleComment_twice_odd_marks :
    let marks : List Text :=
      [[CodePoint.ofNat 0xD83D, CodePoint.ofNat 0xDE00],
        [CodePoint.ofNat 0xFDD0]]
    (∀ mark ∈ marks, mark ≠ [] ∧ ∀ c ∈ mark, c.isBlank = false) ∧
      ∀ mark ∈ marks,
        let mode := { Language.Mode.scallop with lineComment := mark }
        let editor := session .dark mode (Text.ofString "a") []
        let twice := editor.toggleComment.editor.toggleComment.editor
        editor.mode.lineComment = mark ∧
          (∃ line ∈ editor.commentedLines,
            Text.isBlank (editor.document.lines.getD line []) = false ∧
              Commenting.isCommented mark
                (editor.document.lines.getD line []) = false) ∧
          twice.text ≠ editor.text := by
  decide +kernel

end ClauseEditor.Editor
