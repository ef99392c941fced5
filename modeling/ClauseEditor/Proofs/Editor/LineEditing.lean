import ClauseEditor.Editor.LineEditing
import ClauseEditor.Proofs.Commenting
import ClauseEditor.Proofs.Editor.Reindentation

/-!
# Commenting and outdenting

Lines that stand one after another are replaced from the top down.  What
stands above the lines that are still to be replaced has its final length
already, so each line is found where the pass looks for it, and the outcome
is the content with the new lines in the place of the old ones.
-/

namespace ClauseEditor.Editor

open Document

/-! ## Replacing lines -/

/-- Puts a text in the place of another one, unless it is the same. -/
def replaceLine
    (draft : Draft)
    (first : Nat)
    (old new : Text) :
    Draft :=
  if old = new then draft
  else
    (draft.remove first (first + (Utf16.encode old).length)).insert first new

theorem replaceLines_cons
    (draft : Draft)
    (first : Nat)
    (old new : Text)
    (lines : List (Text × Text)) :
    replaceLines draft first ((old, new) :: lines) =
      replaceLines (replaceLine draft first old new)
        (first + (contentOf new).length + 1) lines := rfl

section ReplaceLine

variable
    {content : List CodeUnit}
    {draft : Draft}
    {old : Text}

theorem settled_replaceLine
    (settled : Settled draft.content)
    (first : Nat)
    (old new : Text) :
    Settled (replaceLine draft first old new).content := by
  rw [replaceLine]
  split
  · exact settled
  · exact Draft.settled_insert (Draft.settled_remove settled _ _) first new

theorem replaceLine_eq
    {before rest : List CodeUnit}
    (isFrom : draft.IsFrom content)
    (held : draft.content = before ++ Utf16.encode old ++ rest)
    (whole : contentOf old = Utf16.encode old)
    (new : Text) :
    (replaceLine draft before.length old new).IsFrom content ∧
      (replaceLine draft before.length old new).content =
        before ++ contentOf new ++ rest := by
  rw [replaceLine]
  split
  · rename_i same
    refine ⟨isFrom, ?_⟩
    rw [held, ← same, whole]
  · have inside : before.length ≤ draft.content.length := by
      rw [held, List.append_assoc, List.length_append]
      exact Nat.le_add_right _ _
    refine ⟨isFrom.replace inside _ new, ?_⟩
    rw [Draft.content_replace draft inside, held, ← List.length_append,
      List.drop_left, List.append_assoc before (Utf16.encode old) rest,
      List.take_left]

end ReplaceLine

theorem settled_replaceLines
    {draft : Draft}
    (settled : Settled draft.content)
    (first : Nat)
    (lines : List (Text × Text)) :
    Settled (replaceLines draft first lines).content := by
  induction lines generalizing draft first with
  | nil => exact settled
  | cons line lines induction =>
      exact induction (settled_replaceLine settled first line.1 line.2) _

/-- Each line is replaced where it stands. -/
theorem replaceLines_eq
    {content before after : List CodeUnit}
    {draft : Draft}
    {old new : Text}
    {lines : List (Text × Text)}
    (isFrom : draft.IsFrom content)
    (held :
      draft.content =
        before ++ Utf16.encode old ++
          (below ((lines.map Prod.fst).map Utf16.encode) ++ after))
    (whole :
      ∀ line ∈ (old, new) :: lines, contentOf line.1 = Utf16.encode line.1) :
    (replaceLines draft before.length ((old, new) :: lines)).IsFrom content ∧
      (replaceLines draft before.length ((old, new) :: lines)).content =
        before ++ contentOf new ++
          (below ((lines.map Prod.snd).map contentOf) ++ after) := by
  induction lines generalizing draft before old new with
  | nil => exact replaceLine_eq isFrom held (whole _ List.mem_cons_self) new
  | cons next lines induction =>
      rcases next with ⟨nextOld, nextNew⟩
      rcases replaceLine_eq isFrom held (whole _ List.mem_cons_self) new with
        ⟨kept, replaced⟩
      -- The next line starts behind the separator after this one.
      have start :
          before.length + (contentOf new).length + 1 =
            (before ++ contentOf new ++ [separator]).length := by
        rw [List.length_append, List.length_append]
        rfl
      have nextHeld :
          (replaceLine draft before.length old new).content =
            before ++ contentOf new ++ [separator] ++ Utf16.encode nextOld ++
              (below ((lines.map Prod.fst).map Utf16.encode) ++
                after) := by
        rw [replaced]
        simp
      have nextWhole :
          ∀ line ∈ (nextOld, nextNew) :: lines,
            contentOf line.1 = Utf16.encode line.1 :=
        fun line member => whole line (List.mem_cons_of_mem _ member)
      rcases induction kept nextHeld nextWhole with ⟨rest, filled⟩
      rw [replaceLines_cons, start]
      refine ⟨rest, filled.trans ?_⟩
      simp

/-- Lines that stay the same are not touched. -/
theorem replaceLines_of_same
    (draft : Draft)
    (first : Nat)
    {lines : List (Text × Text)}
    (same : ∀ line ∈ lines, line.1 = line.2) :
    replaceLines draft first lines = draft := by
  induction lines generalizing first with
  | nil => rfl
  | cons line lines induction =>
      rw [replaceLines_cons, replaceLine, if_pos (same _ List.mem_cons_self)]
      exact induction _ fun other member =>
        same other (List.mem_cons_of_mem line member)

/-- The texts of lines one after another. -/
def textsFrom (content : List CodeUnit) (first count : Nat) : List Text :=
  (List.range' first count).map fun line => (textsOf content).getD line []

theorem textsFrom_succ (content : List CodeUnit) (first count : Nat) :
    textsFrom content first (count + 1) =
      (textsOf content).getD first [] ::
        textsFrom content (first + 1) count := by
  rw [textsFrom, List.range'_succ, List.map_cons, textsFrom]

@[simp]
theorem length_textsFrom (content : List CodeUnit) (first count : Nat) :
    (textsFrom content first count).length = count := by
  rw [textsFrom, List.length_map, List.length_range']

theorem textsFrom_eq
    {content : List CodeUnit}
    {first count : Nat}
    (present : first + count ≤ (linesOf content).length) :
    textsFrom content first count =
      ((textsOf content).drop first).take count := by
  induction count generalizing first with
  | zero => simp [textsFrom]
  | succ count induction =>
      have here : first < (textsOf content).length := by
        rw [length_textsOf]
        omega
      rw [textsFrom_succ, induction (by omega),
        List.getD_eq_getElem _ _ here, List.drop_eq_getElem_cons here,
        List.take_succ_cons]

theorem map_encode_textsFrom
    {content : List CodeUnit}
    {first count : Nat}
    (present : first + count ≤ (linesOf content).length) :
    (textsFrom content first count).map Utf16.encode =
      ((linesOf content).drop first).take count := by
  have units : (textsOf content).map Utf16.encode = linesOf content := by
    simp [textsOf, Function.comp_def]
  rw [textsFrom_eq present, List.map_take, List.map_drop, units]

theorem contentOf_of_mem_textsFrom
    {content : List CodeUnit}
    (settled : Settled content)
    {first count : Nat}
    (present : first + count ≤ (linesOf content).length)
    {text : Text}
    (listed : text ∈ textsFrom content first count) :
    contentOf text = Utf16.encode text := by
  rcases List.mem_map.mp listed with ⟨line, member, rfl⟩
  rw [List.mem_range'_1] at member
  have inside : line < (linesOf content).length := by omega
  rw [getD_textsOf inside, Utf16.encode_decode]
  exact settled.contentOf_decode (List.getElem_mem inside)

/-- A content taken apart around lines one after another. -/
theorem content_eq_textsFrom
    {content : List CodeUnit}
    {first more : Nat}
    (present : first + (more + 1) ≤ (linesOf content).length) :
    content =
      above ((linesOf content).take first) ++
        Utf16.encode ((textsOf content).getD first []) ++
        (below ((textsFrom content (first + 1) more).map Utf16.encode) ++
          below ((linesOf content).drop (first + (more + 1)))) := by
  have here : first < (linesOf content).length := by omega
  have rest :
      (linesOf content).drop (first + (more + 1)) =
        ((linesOf content).drop (first + 1)).drop more := by
    rw [List.drop_drop, Nat.add_assoc, Nat.add_comm 1]
  rw [← below_append, map_encode_textsFrom (by omega), rest,
    List.take_append_drop, getD_textsOf here, Utf16.encode_decode]
  exact content_eq_around here

/-- New lines in the place of as many old ones. -/
theorem replaceLines_textsFrom
    {content : List CodeUnit}
    {draft : Draft}
    (isFrom : draft.IsFrom content)
    (settled : Settled draft.content)
    {first more : Nat}
    (present : first + (more + 1) ≤ (linesOf draft.content).length)
    {texts : List Text}
    (sameLength : texts.length = more + 1) :
    let replaced :=
      replaceLines draft (lineStart draft.content first)
        ((textsFrom draft.content first (more + 1)).zip texts)
    replaced.IsFrom content ∧
      replaced.content =
        [separator].intercalate
          ((linesOf draft.content).take first ++
            (texts.map contentOf ++
              (linesOf draft.content).drop (first + (more + 1)))) := by
  cases texts with
  | nil => exact absurd sameLength.symm (Nat.succ_ne_zero more)
  | cons new news =>
      have oldLength := length_textsFrom draft.content (first + 1) more
      have newLength : news.length = more := Nat.succ.inj sameLength
      have whole :
          ∀ line ∈ (textsFrom draft.content first (more + 1)).zip
              (new :: news),
            contentOf line.1 = Utf16.encode line.1 := by
        intro line listed
        exact contentOf_of_mem_textsFrom settled present
          (List.of_mem_zip listed).1
      have olds :
          ((textsFrom draft.content (first + 1) more).zip news).map
              Prod.fst =
            textsFrom draft.content (first + 1) more :=
        List.map_fst_zip (Nat.le_of_eq (oldLength.trans newLength.symm))
      have fresh :
          ((textsFrom draft.content (first + 1) more).zip news).map
              Prod.snd =
            news :=
        List.map_snd_zip (Nat.le_of_eq (newLength.trans oldLength.symm))
      have held := content_eq_textsFrom present
      rw [textsFrom_succ, List.zip_cons_cons] at whole ⊢
      rw [← olds] at held
      have replaced := replaceLines_eq isFrom held whole
      rw [← lineStart_eq, fresh, ← below_append, above_append_below]
        at replaced
      exact replaced

/-! ## Commenting -/

section Comment

variable {editor : Editor}

/-- Commenting acts on lines one after another, at least on one. -/
theorem commentedLines_eq (editor : Editor) :
    ∃ first more : Nat,
      editor.commentedLines = List.range' first (more + 1) ∧
        first + (more + 1) ≤ (linesOf editor.content).length := by
  have ordered :
      lineAt editor.content editor.cursor.first ≤
        lineAt editor.content editor.cursor.last :=
    lineAt_mono editor.content editor.cursor.first_le_last
  have inside := lineAt_lt_length editor.content editor.cursor.last
  refine ⟨lineAt editor.content editor.cursor.first, ?_⟩
  rw [commentedLines]
  split
  · rename_i several
    refine
      ⟨lineAt editor.content editor.cursor.last - 1 -
        lineAt editor.content editor.cursor.first, ?_, by omega⟩
    congr 1
    omega
  · refine
      ⟨lineAt editor.content editor.cursor.last -
        lineAt editor.content editor.cursor.first, ?_, by omega⟩
    congr 1
    omega

/-- The edit block of commenting. -/
def commenting (editor : Editor) : Draft :=
  let old :=
    editor.commentedLines.map fun line =>
      (textsOf editor.content).getD line []
  replaceLines editor.draft
    (lineStart editor.content (editor.commentedLines.headD 0))
    (old.zip (Commenting.toggle editor.mode.lineComment old))

theorem toggleComment_eq (editor : Editor) :
    editor.toggleComment =
      editor.finish editor.commenting editor.memo
        (.block (some editor.cursor.position)) := rfl

/-- Commenting puts the new lines in the place of the old ones. -/
theorem commenting_eq
    (sound : editor.Sound)
    {first more : Nat}
    (numbers : editor.commentedLines = List.range' first (more + 1))
    (present : first + (more + 1) ≤ (linesOf editor.content).length) :
    editor.commenting.IsFrom editor.content ∧
      editor.commenting.content =
        [separator].intercalate
          ((linesOf editor.content).take first ++
            ((Commenting.toggle editor.mode.lineComment
                (textsFrom editor.content first (more + 1))).map contentOf ++
              (linesOf editor.content).drop (first + (more + 1)))) := by
  have sameLength :
      (Commenting.toggle editor.mode.lineComment
        (textsFrom editor.content first (more + 1))).length = more + 1 := by
    rw [Commenting.length_toggle, length_textsFrom]
  rw [commenting, numbers]
  exact replaceLines_textsFrom sound.draft sound.settled present sameLength

theorem isFrom_commenting (sound : editor.Sound) :
    editor.commenting.IsFrom editor.content := by
  rcases commentedLines_eq editor with ⟨first, more, numbers, present⟩
  exact (commenting_eq sound numbers present).1

end Comment

/-! ## Outdenting -/

section Outdent

variable {content : List CodeUnit} {draft : Draft}

theorem isFrom_foldl_outdentLine
    (isFrom : draft.IsFrom content)
    (unit : Text)
    (numbers : List Nat) :
    (numbers.foldl (outdentLine unit) draft).IsFrom content := by
  induction numbers generalizing draft with
  | nil => exact isFrom
  | cons line numbers induction => exact induction (isFrom.remove _ _)

theorem settled_foldl_outdentLine
    (settled : Settled draft.content)
    (unit : Text)
    (numbers : List Nat) :
    Settled (numbers.foldl (outdentLine unit) draft).content := by
  induction numbers generalizing draft with
  | nil => exact settled
  | cons line numbers induction =>
      exact induction (Draft.settled_remove settled _ _)

end Outdent

section Sound

variable {editor : Editor}

theorem Sound.toggleComment (sound : editor.Sound) :
    editor.toggleComment.editor.Sound := by
  rw [toggleComment_eq]
  exact sound.edit (isFrom_commenting sound) (settled_replaceLines sound.settled _ _)
    sound.cursor_inside

theorem Sound.outdentSelection (sound : editor.Sound) :
    editor.outdentSelection.editor.Sound :=
  sound.edit (isFrom_foldl_outdentLine sound.draft _ _)
    (settled_foldl_outdentLine sound.settled _ _) sound.cursor_inside

end Sound

end ClauseEditor.Editor
