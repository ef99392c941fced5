import Mathlib.Data.List.GetD
import ClauseEditor.Indent.Margin

/-!
# Blank characters and the scan

A blank character is no quote, no bracket and no part of a comment mark.  At
the start of a line it therefore changes nothing: the boundary after the line
stays the same, and so does the stripped code text, whether the line starts
inside a block comment or not.  The same holds at the end of a line, in
whatever the line ends: in code a blank character is blank, in a string or a
comment it is shown as a blank, and it cannot complete a mark that the line
has begun.

Two lines are lexically alike if no boundary before them can tell them apart
by these two results.  A line is alike to itself with any other margin, and a
blank line is alike to an empty one.  Lists of lines that are alike line by
line have the same boundaries.
-/

namespace ClauseEditor

namespace Text

theorem strip_cons_of_isBlank
    {c : CodePoint}
    (isBlank : c.isBlank = true)
    (text : Text) :
    strip (c :: text) = strip text := by
  simp [strip, stripLeft, isBlank]

@[simp]
theorem isBlank_append (left right : Text) :
    isBlank (left ++ right) = (isBlank left && isBlank right) :=
  List.all_append

theorem stripRight_append_of_isBlank
    {run : Text}
    (isBlank : Text.isBlank run = true)
    (text : Text) :
    stripRight (text ++ run) = stripRight text := by
  have blanks : ∀ c ∈ run.reverse, c.isBlank = true := by
    intro c member
    exact List.all_eq_true.mp isBlank c (List.mem_reverse.mp member)
  rw [stripRight, List.reverse_append, List.dropWhile_append_of_pos blanks,
    stripRight]

theorem strip_append_of_isBlank
    {run : Text}
    (isBlank : Text.isBlank run = true)
    (text : Text) :
    strip (text ++ run) = strip text := by
  rw [strip, strip, stripLeft, List.dropWhile_append]
  split
  · rename_i empty
    have nothing : stripLeft run = [] := stripLeft_eq_nil_iff.mpr isBlank
    rw [stripLeft] at nothing
    rw [nothing, stripLeft, List.isEmpty_iff.mp empty]
  · exact stripRight_append_of_isBlank isBlank (stripLeft text)

end Text

namespace Indent

open ClauseEditor.Scallop

theorem isBlank_of_isMargin
    {c : CodePoint}
    (isMargin : Indent.isMargin c = true) :
    c.isBlank = true := by
  simp only [Indent.isMargin, Bool.or_eq_true, decide_eq_true_eq] at isMargin
  rcases isMargin with rfl | rfl <;> decide

@[simp]
theorem isBlank_margin (line : Text) :
    Text.isBlank (margin line) = true := by
  apply List.all_eq_true.mpr
  intro c member
  exact isBlank_of_isMargin (isMargin_of_mem_margin member)

theorem isBlank_spaces (count : Nat) :
    Text.isBlank (Text.spaces count) = true := by
  apply List.all_eq_true.mpr
  intro c member
  rw [List.eq_of_mem_replicate member]
  decide

/-! ## One blank character -/

/-- A character that the scan gives a meaning to is not blank. -/
theorem ne_of_isBlank
    {c mark : CodePoint}
    (isBlank : c.isBlank = true)
    (visible : mark.isBlank = false) :
    c ≠ mark := by
  rintro rfl
  simp [visible] at isBlank

theorem depthAfter_of_isBlank
    {c : CodePoint}
    (isBlank : c.isBlank = true)
    (depth : Int) :
    depthAfter depth c = depth := by
  have notOpen : c ∉ openBrackets := by
    intro member
    have visible : ∀ mark ∈ openBrackets, mark.isBlank = false := by decide
    exact ne_of_isBlank isBlank (visible c member) rfl
  have notClose : c ∉ closeBrackets := by
    intro member
    have visible : ∀ mark ∈ closeBrackets, mark.isBlank = false := by decide
    exact ne_of_isBlank isBlank (visible c member) rfl
  simp [depthAfter, notOpen, notClose]

/--
A blank character at the start of a line leaves the scan where it is and is
blank in the code text.
-/
theorem scan_cons_of_isBlank
    {c : CodePoint}
    (isBlank : c.isBlank = true)
    (boundary : Boundary)
    (rest : Text) :
    ∃ shown : CodePoint, shown.isBlank = true ∧
      boundary.scan (c :: rest) =
        ⟨boundary.after rest, shown :: (boundary.scan rest).code⟩ := by
  have notSlash : c ≠ slash := ne_of_isBlank isBlank (by decide)
  have notStar : c ≠ star := ne_of_isBlank isBlank (by decide)
  have notQuote : c ≠ quote := ne_of_isBlank isBlank (by decide)
  rcases boundary with ⟨depth, inComment⟩
  cases inComment with
  | true =>
      refine ⟨blank, by decide, ?_⟩
      simp [Boundary.scan, Boundary.after, Phase.ofBoundary, scanFrom,
        Phase.startsLineComment, Phase.next, Phase.shown, notStar]
  | false =>
      refine ⟨c, isBlank, ?_⟩
      simp [Boundary.scan, Boundary.after, Phase.ofBoundary, scanFrom,
        Phase.startsLineComment, Phase.next, Phase.shown, notSlash, notQuote,
        depthAfter_of_isBlank isBlank]

/-! ## Blank characters at the end of a line -/

/-- A blank character leaves the scan in what it stands in. -/
structure Phase.Idle
    (phase : Phase)
    (c : CodePoint)
    (next? : Option CodePoint) :
    Prop where
  noLineComment : phase.startsLineComment c next? = false
  next_ne_opener : phase.next c next? ≠ .opener
  next_eq_comment_iff : phase.next c next? = .comment ↔ phase = .comment
  isBlank_shown : (phase.shown c next?).isBlank = true

theorem Phase.idle_of_isBlank
    {c : CodePoint}
    (isBlank : c.isBlank = true)
    {phase : Phase}
    (inside : phase ≠ .opener)
    (next? : Option CodePoint) :
    phase.Idle c next? := by
  have notSlash : c ≠ slash := ne_of_isBlank isBlank (by decide)
  have notStar : c ≠ star := ne_of_isBlank isBlank (by decide)
  have notQuote : c ≠ quote := ne_of_isBlank isBlank (by decide)
  have notEscape : c ≠ backslash := ne_of_isBlank isBlank (by decide)
  have blank : blank.isBlank = true := by decide
  cases phase <;> constructor <;>
    simp_all [Phase.startsLineComment, Phase.next, Phase.shown]

/-- A mark takes two characters, so the end of a line is not within one. -/
theorem Phase.next_none_ne_opener (phase : Phase) (c : CodePoint) :
    phase.next c none ≠ .opener := by
  cases phase <;> simp only [Phase.next] <;> (repeat' split) <;> simp_all

section Run

variable
    {run : Text}
    (isBlank : Text.isBlank run = true)

include isBlank

/-- Looking ahead, the end of the line and a blank character are no mark. -/
theorem head?_append_eq_some_iff
    (rest : Text)
    {mark : CodePoint}
    (visible : mark.isBlank = false) :
    (rest ++ run).head? = some mark ↔ rest.head? = some mark := by
  cases rest with
  | cons c rest => rfl
  | nil =>
      refine ⟨fun first => ?_, fun absent => nomatch absent⟩
      have member := List.mem_of_mem_head? first
      have blank := List.all_eq_true.mp isBlank mark member
      exact absurd (visible.symm.trans blank) (by decide)

/-- A step of the scan does not see blank characters ahead of it. -/
theorem step_append (phase : Phase) (c : CodePoint) (rest : Text) :
    phase.startsLineComment c (rest ++ run).head? =
        phase.startsLineComment c rest.head? ∧
      phase.next c (rest ++ run).head? = phase.next c rest.head? ∧
      phase.shown c (rest ++ run).head? = phase.shown c rest.head? := by
  have star : (rest ++ run).head? = some star ↔ rest.head? = some star :=
    head?_append_eq_some_iff isBlank rest (by decide)
  have slash : (rest ++ run).head? = some slash ↔ rest.head? = some slash :=
    head?_append_eq_some_iff isBlank rest (by decide)
  refine ⟨?_, ?_, ?_⟩
  · simp only [Phase.startsLineComment, slash]
  · cases phase <;> simp only [Phase.next, star, slash]
  · cases phase <;> simp only [Phase.shown, star]

/--
Blank characters by themselves leave the depth as it is, whatever they stand
in, and show as blanks.
-/
theorem exists_scanFrom_eq
    {phase : Phase}
    (inside : phase ≠ .opener)
    (depth : Int) :
    ∃ shown : Text, Text.isBlank shown = true ∧
      scanFrom phase depth run = ⟨⟨depth, phase = .comment⟩, shown⟩ := by
  induction run generalizing phase with
  | nil => exact ⟨[], rfl, rfl⟩
  | cons c run induction =>
      rw [Text.isBlank, List.all_cons, Bool.and_eq_true] at isBlank
      have idle := Phase.idle_of_isBlank isBlank.1 inside run.head?
      obtain ⟨shown, shownBlank, scanned⟩ :=
        induction isBlank.2 idle.next_ne_opener
      refine ⟨phase.shown c run.head? :: shown, ?_, ?_⟩
      · rw [Text.isBlank, List.all_cons, idle.isBlank_shown]
        exact shownBlank
      · rw [scanFrom, idle.noLineComment, depthAfter_of_isBlank isBlank.1,
          ite_self]
        simp [scanned, idle.next_eq_comment_iff]

/--
Blank characters at the end of a line are at most blanks more in its code
text.
-/
theorem exists_scanFrom_append_eq
    {phase : Phase}
    {line : Text}
    (inside : phase = .opener → line ≠ [])
    (depth : Int) :
    ∃ shown : Text, Text.isBlank shown = true ∧
      scanFrom phase depth (line ++ run) =
        ⟨(scanFrom phase depth line).boundary,
          (scanFrom phase depth line).code ++ shown⟩ := by
  induction line generalizing phase depth with
  | nil =>
      have notOpener : phase ≠ .opener := fun opener => inside opener rfl
      exact exists_scanFrom_eq isBlank notOpener depth
  | cons c rest induction =>
      obtain ⟨sameComment, sameNext, sameShown⟩ :=
        step_append isBlank phase c rest
      rw [List.cons_append, scanFrom, scanFrom, sameComment, sameNext,
        sameShown]
      cases phase.startsLineComment c rest.head? with
      | true => exact ⟨[], rfl, rfl⟩
      | false =>
          have goesOn : phase.next c rest.head? = .opener → rest ≠ [] := by
            rintro opener rfl
            exact Phase.next_none_ne_opener phase c opener
          obtain ⟨shown, shownBlank, scanned⟩ :=
            induction goesOn
              (if phase = .code then depthAfter depth c else depth)
          exact ⟨shown, shownBlank, by simp [scanned]⟩

end Run

/-! ## Lines that are lexically alike -/

/-- No boundary before the lines tells them apart. -/
structure Alike (left right : Text) : Prop where
  after_eq (boundary : Boundary) : boundary.after left = boundary.after right
  code_eq (boundary : Boundary) :
    Text.strip (boundary.scan left).code =
      Text.strip (boundary.scan right).code

namespace Alike

theorem refl (line : Text) : Alike line line :=
  ⟨fun _ => rfl, fun _ => rfl⟩

theorem symm
    {left right : Text}
    (alike : Alike left right) :
    Alike right left :=
  ⟨fun boundary => (alike.after_eq boundary).symm,
    fun boundary => (alike.code_eq boundary).symm⟩

theorem trans
    {first second third : Text}
    (left : Alike first second)
    (right : Alike second third) :
    Alike first third :=
  ⟨fun boundary =>
      (left.after_eq boundary).trans (right.after_eq boundary),
    fun boundary =>
      (left.code_eq boundary).trans (right.code_eq boundary)⟩

theorem cons_of_isBlank
    {c : CodePoint}
    (isBlank : c.isBlank = true)
    (rest : Text) :
    Alike (c :: rest) rest := by
  constructor
  · intro boundary
    rcases scan_cons_of_isBlank isBlank boundary rest with ⟨shown, _, scanned⟩
    rw [Boundary.after, scanned]
  · intro boundary
    rcases scan_cons_of_isBlank isBlank boundary rest with
      ⟨shown, shownBlank, scanned⟩
    rw [scanned, Text.strip_cons_of_isBlank shownBlank]

/-- Blank characters at the start of a line make no difference. -/
theorem append_of_isBlank
    {run : Text}
    (isBlank : Text.isBlank run = true)
    (rest : Text) :
    Alike (run ++ rest) rest := by
  induction run with
  | nil => exact refl rest
  | cons c run induction =>
      simp only [Text.isBlank, List.all_cons, Bool.and_eq_true] at isBlank
      exact (cons_of_isBlank isBlank.1 (run ++ rest)).trans
        (induction isBlank.2)

/-- Blank characters at the end of a line make no difference. -/
theorem append_right_of_isBlank
    {run : Text}
    (isBlank : Text.isBlank run = true)
    (line : Text) :
    Alike (line ++ run) line := by
  have scanned (boundary : Boundary) :
      ∃ shown : Text, Text.isBlank shown = true ∧
        boundary.scan (line ++ run) =
          ⟨boundary.after line, (boundary.scan line).code ++ shown⟩ := by
    refine exists_scanFrom_append_eq isBlank (fun opener => ?_) boundary.depth
    rw [Phase.ofBoundary] at opener
    split at opener <;> cases opener
  constructor
  · intro boundary
    obtain ⟨shown, _, scan⟩ := scanned boundary
    rw [Boundary.after, scan]
  · intro boundary
    obtain ⟨shown, shownBlank, scan⟩ := scanned boundary
    rw [scan, Text.strip_append_of_isBlank shownBlank]

/-- A blank line is like an empty one. -/
theorem nil_of_isBlank
    {line : Text}
    (isBlank : Text.isBlank line = true) :
    Alike line [] := by
  simpa using append_of_isBlank isBlank []

/-- Two blank lines are alike. -/
theorem of_isBlank
    {left right : Text}
    (leftBlank : Text.isBlank left = true)
    (rightBlank : Text.isBlank right = true) :
    Alike left right :=
  (nil_of_isBlank leftBlank).trans (nil_of_isBlank rightBlank).symm

theorem content (line : Text) : Alike line (Indent.content line) := by
  have split :=
    append_of_isBlank (isBlank_margin line) (Indent.content line)
  rwa [margin_append_content] at split

/-- A line is alike to itself with another margin. -/
theorem withMargin (target : Nat) (line : Text) :
    Alike line (Indent.withMargin target line) :=
  (content line).trans
    (append_of_isBlank (isBlank_spaces target) (Indent.content line)).symm

theorem aligned (tabWidth : Int) (line : Text) (column target : Int) :
    Alike line (Indent.aligned tabWidth line column target).line := by
  rw [Indent.aligned]
  split
  · exact refl line
  · exact withMargin target.toNat line

end Alike

/-! ## Boundaries of lists of lines -/

/-- The boundary before line `line`. -/
def boundaryAt (lines : List Text) (line : Nat) : Boundary :=
  (lines.take line).foldl Boundary.after .start

@[simp]
theorem boundaryAt_zero (lines : List Text) :
    boundaryAt lines 0 = .start := rfl

/-- Lines past the end count as empty. -/
theorem boundaryAt_succ (lines : List Text) (line : Nat) :
    boundaryAt lines (line + 1) =
      (boundaryAt lines line).after (lines.getD line []) := by
  simp only [boundaryAt, List.take_add_one, List.foldl_append]
  cases found : lines[line]? with
  | none => simp [found, Boundary.after, scan_nil]
  | some text => simp [found]

/-- Only the lines above count. -/
theorem boundaryAt_congr
    {left right : List Text}
    {line count : Nat}
    (same : left.take count = right.take count)
    (within : line ≤ count) :
    boundaryAt left line = boundaryAt right line := by
  have cut := congrArg (List.take line) same
  simp only [List.take_take, Nat.min_eq_left within] at cut
  rw [boundaryAt, boundaryAt, cut]

/-- Two lists of lines are as long as each other and alike line by line. -/
structure LinesAlike (left right : List Text) : Prop where
  length_eq : left.length = right.length
  alike (line : Nat) : Alike (left.getD line []) (right.getD line [])

namespace LinesAlike

theorem refl (lines : List Text) : LinesAlike lines lines :=
  ⟨rfl, fun _ => .refl _⟩

theorem trans
    {first second third : List Text}
    (left : LinesAlike first second)
    (right : LinesAlike second third) :
    LinesAlike first third :=
  ⟨left.length_eq.trans right.length_eq,
    fun line => (left.alike line).trans (right.alike line)⟩

theorem boundaryAt_eq
    {left right : List Text}
    (alike : LinesAlike left right)
    (line : Nat) :
    boundaryAt left line = boundaryAt right line := by
  induction line with
  | zero => rfl
  | succ line induction =>
      rw [boundaryAt_succ, boundaryAt_succ, induction]
      exact (alike.alike line).after_eq _

/-- Putting an alike line in the place of another one. -/
theorem set
    (lines : List Text)
    (line : Nat)
    {text : Text}
    (alike : Alike (lines.getD line []) text) :
    LinesAlike lines (lines.set line text) := by
  constructor
  · exact List.length_set.symm
  · intro other
    by_cases same : line = other
    · subst other
      by_cases present : line < lines.length
      · simpa [List.getD, present] using alike
      · rw [List.set_eq_of_length_le (Nat.le_of_not_lt present)]
        exact .refl _
    · simpa [List.getD, List.getElem?_set_ne same] using Alike.refl _

end LinesAlike

end Indent

end ClauseEditor
