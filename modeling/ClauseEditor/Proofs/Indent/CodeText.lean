import Mathlib.Data.List.Forall2
import ClauseEditor.Proofs.Indent.Turns

/-!
# The code text as a mask

The code text of a line covers the line from its start: every character of it
is the character of the line that stands there, or a blank.  It covers the whole
line unless the scan stops at a line comment.  What it shows depends on whether
the line starts in a block comment, but not on the depth of the brackets.

Scanning the code text gives the code text again and the same depth, and leaves
no comment open: the blanks in it keep apart what stood apart, so it has no
comment marks, and its strings have nothing in them that could end them early.
-/

namespace ClauseEditor.Indent

open ClauseEditor.Scallop

/-! ## One character -/

namespace Phase

theorem shown_eq_or (phase : Phase) (c : CodePoint) (next? : Option CodePoint) :
    phase.shown c next? = c ∨ phase.shown c next? = blank := by
  cases phase <;> simp only [shown] <;> (repeat' split) <;> simp

/-- The phase of a scan of the code text where this is the phase in the line. -/
def masked : Phase → Phase
  | string | escape => string
  | code | opener | comment | closer => code

/--
A second scan, which sees what is shown of a character and then `shown?`, does
with it what the first scan did with the character.
-/
structure Repeats
    (phase : Phase)
    (c : CodePoint)
    (next? shown? : Option CodePoint) :
    Prop where
  noLineComment :
    phase.masked.startsLineComment (phase.shown c next?) shown? = false
  next_eq :
    phase.masked.next (phase.shown c next?) shown? =
      (phase.next c next?).masked
  shown_eq :
    phase.masked.shown (phase.shown c next?) shown? = phase.shown c next?
  depth_eq (depth : Int) :
    (if phase.masked = code then depthAfter depth (phase.shown c next?)
      else depth) =
      if phase = code then depthAfter depth c else depth

section Steps

variable {phase : Phase} {c : CodePoint} {next? shown? : Option CodePoint}

/-- A blank is shown for what changes neither the phase nor the depth. -/
theorem repeats_of_blank
    (shown_eq : phase.shown c next? = blank)
    (next_eq : (phase.next c next?).masked = phase.masked)
    (depth_eq : ∀ depth, phase = code → depthAfter depth c = depth) :
    phase.Repeats c next? shown? := by
  have cases_masked : phase.masked = code ∨ phase.masked = string := by
    cases phase <;> simp [masked]
  have notSlash : blank ≠ slash := by decide
  have notQuote : blank ≠ quote := by decide
  have notEscape : blank ≠ backslash := by decide
  have blankDepth (depth : Int) : depthAfter depth blank = depth :=
    depthAfter_of_isBlank (by decide) depth
  constructor
  · rw [shown_eq]
    simp [startsLineComment, notSlash]
  · rw [shown_eq, next_eq]
    rcases cases_masked with same | same <;>
      simp [same, next, notSlash, notQuote, notEscape]
  · rw [shown_eq]
    rcases cases_masked with same | same <;>
      simp [same, shown]
  · intro depth
    rw [shown_eq, blankDepth, ite_self]
    split
    · rename_i inCode
      exact (depth_eq depth inCode).symm
    · rfl

/-- What the second scan sees ahead of a character is what the first one saw. -/
theorem repeats
    (noLineComment : phase.startsLineComment c next? = false)
    (ahead : ∀ mark, mark ≠ blank → shown? = some mark → next? = some mark) :
    phase.Repeats c next? shown? := by
  have star := ahead star (by decide)
  have slash := ahead slash (by decide)
  cases phase with
  | code =>
      by_cases opens : c = Scallop.slash ∧ next? = some Scallop.star
      · apply repeats_of_blank
        · rw [shown, if_pos opens]
        · rw [next, if_pos opens]
          rfl
        · intro depth _
          rw [opens.1]
          rfl
      · have closed : ¬ (c = Scallop.slash ∧ shown? = some Scallop.star) :=
          fun both => opens ⟨both.1, star both.2⟩
        have visible : code.shown c next? = c := if_neg opens
        have apart : c = Scallop.slash → next? ≠ some Scallop.slash := by
          simpa [startsLineComment] using noLineComment
        constructor
        · rw [visible]
          simpa [startsLineComment, masked] using fun isSlash ahead =>
            apart isSlash (slash ahead)
        · rw [visible, masked, next, next, if_neg opens, if_neg closed]
          split <;> rfl
        · rw [visible, masked, shown, if_neg closed]
        · intro depth
          rw [visible, masked]
  | string =>
      by_cases closes : c = quote
      · subst closes
        exact ⟨rfl, rfl, rfl, fun _ => rfl⟩
      · apply repeats_of_blank
        · rw [shown, if_neg closes]
        · rw [next, if_neg closes]
          split <;> rfl
        · intro _ other
          cases other
  | comment =>
      apply repeats_of_blank rfl
      · rw [next]
        split <;> rfl
      · intro _ other
        cases other
  | _ =>
      apply repeats_of_blank rfl rfl
      intro _ other
      cases other

end Steps

end Phase

/-! ## The rest of a line -/

section Rest

variable (phase : Phase) (depth : Int) (line : Text)

/-- The characters of the code text are those of the line or blanks. -/
theorem forall₂_code_scanFrom :
    List.Forall₂ (fun shown c => shown = c ∨ shown = blank)
      (scanFrom phase depth line).code
      (line.take (scanFrom phase depth line).code.length) := by
  induction line generalizing phase depth with
  | nil => exact .nil
  | cons c rest induction =>
      rw [scanFrom]
      split
      · exact .nil
      · exact .cons (phase.shown_eq_or c rest.head?) (induction _ _)

/-- A mark that begins the code text begins the line. -/
theorem head?_of_head?_code
    {mark : CodePoint}
    (visible : mark ≠ blank)
    (shown : (scanFrom phase depth line).code.head? = some mark) :
    line.head? = some mark := by
  have mask := forall₂_code_scanFrom phase depth line
  cases mask_code : (scanFrom phase depth line).code with
  | nil => rw [mask_code] at shown; cases shown
  | cons first others =>
      rw [mask_code] at shown mask
      cases shown
      cases line with
      | nil => cases mask
      | cons c rest =>
          rcases mask with _ | ⟨same, _⟩
          exact congrArg some (same.resolve_right visible).symm

/-- The depth is counted along with the scan and does not direct it. -/
theorem scanFrom_depth (other : Int) :
    (scanFrom phase depth line).code = (scanFrom phase other line).code ∧
      (scanFrom phase depth line).boundary.inComment =
        (scanFrom phase other line).boundary.inComment := by
  induction line generalizing phase depth other with
  | nil => exact ⟨rfl, rfl⟩
  | cons c rest induction =>
      cases ends : phase.startsLineComment c rest.head? with
      | true =>
          rw [scanFrom, scanFrom, if_pos ends, if_pos ends]
          exact ⟨rfl, rfl⟩
      | false =>
          rw [scanFrom_cons ends, scanFrom_cons ends]
          obtain ⟨code, inComment⟩ :=
            induction (phase.next c rest.head?)
              (if phase = .code then depthAfter depth c else depth)
              (if phase = .code then depthAfter other c else other)
          exact ⟨congrArg (List.cons _) code, inComment⟩

/-- Scanning the code text of the rest of a line. -/
theorem scanFrom_masked :
    scanFrom phase.masked depth (scanFrom phase depth line).code =
      ⟨⟨(scanFrom phase depth line).boundary.depth, false⟩,
        (scanFrom phase depth line).code⟩ := by
  induction line generalizing phase depth with
  | nil => cases phase <;> rfl
  | cons c rest induction =>
      cases ends : phase.startsLineComment c rest.head? with
      | true =>
          rw [scanFrom, if_pos ends]
          cases phase <;> rfl
      | false =>
          have repeats :=
            Phase.repeats ends fun _ =>
              head?_of_head?_code (phase.next c rest.head?)
                (if phase = .code then depthAfter depth c else depth) rest
          rw [scanFrom_cons ends, Scanned.behind, List.singleton_append,
            scanFrom_cons repeats.noLineComment, repeats.next_eq,
            repeats.shown_eq, repeats.depth_eq, induction]
          rfl

end Rest

/-! ## Where the code text ends -/

/-- The scan stops in code where a line comment begins. -/
def StopsAt (boundary : Boundary) (line : Text) (position : Nat) : Prop :=
  ∃ there : Boundary,
    Stands boundary line there position ∧
      there.inComment = false ∧
      Text.startsWith (line.drop position) lineComment = true

/-- The code text covers the line, or a line comment begins where it ends. -/
theorem length_code_eq_or_stopsAt (boundary : Boundary) (line : Text) :
    (boundary.scan line).code.length = line.length ∨
      StopsAt boundary line (boundary.scan line).code.length := by
  -- What a turn leaves of the line is shorter.
  induction size : line.length using Nat.strongRecOn
    generalizing boundary line with
  | ind _ induction =>
      subst size
      have scanned := scan_eq_elim_turn? boundary line
      cases taken : boundary.turn? line with
      | none =>
          rw [scanned, taken]
          rcases turn?_eq_none_iff.mp taken with rfl | ⟨outside, starts⟩
          · exact Or.inl rfl
          · exact Or.inr ⟨boundary, .start boundary line, outside, starts⟩
      | some turn =>
          obtain ⟨positive, within, shows⟩ := length_of_turn? taken
          have left : (line.drop turn.length).length < line.length := by
            rw [List.length_drop]
            omega
          have length :
              (boundary.scan line).code.length =
                turn.length +
                  (turn.boundary.scan
                    (line.drop turn.length)).code.length := by
            rw [scanned, taken, Option.elim_some, Scanned.behind,
              List.length_append, shows]
          rw [length]
          rcases induction _ left turn.boundary _ rfl with
            whole | ⟨there, stands, outside, starts⟩
          · rw [whole, List.length_drop]
            exact Or.inl (Nat.add_sub_of_le within)
          · rw [List.drop_drop] at starts
            exact Or.inr ⟨there, .turn taken stands, outside, starts⟩

/--
The code text of a line is a mask.  It holds characters of the line and blanks,
falls short of the line just where a line comment ends the scan, and does not
depend on the depth; and it is its own code text, with the depth of the line.
-/
theorem code_scan_masks (boundary : Boundary) (line : Text) :
    let scanned := boundary.scan line
    scanned.code.length ≤ line.length ∧
      List.Forall₂ (fun shown c => shown = c ∨ shown = blank)
        scanned.code (line.take scanned.code.length) ∧
      (scanned.code.length < line.length ↔
        StopsAt boundary line scanned.code.length) ∧
      (∀ depth : Int,
        (Boundary.scan ⟨depth, boundary.inComment⟩ line).code =
            scanned.code ∧
          (Boundary.after ⟨depth, boundary.inComment⟩ line).inComment =
            scanned.boundary.inComment) ∧
      Boundary.scan ⟨boundary.depth, false⟩ scanned.code =
        ⟨⟨scanned.boundary.depth, false⟩, scanned.code⟩ := by
  intro scanned
  have mask :=
    forall₂_code_scanFrom (Phase.ofBoundary boundary) boundary.depth line
  have within : scanned.code.length ≤ line.length := by
    have length := mask.length_eq
    rw [List.length_take] at length
    exact Nat.le_trans (Nat.le_of_eq length) (Nat.min_le_right _ _)
  refine ⟨within, mask, ⟨?_, ?_⟩, ?_, ?_⟩
  · intro short
    exact (length_code_eq_or_stopsAt boundary line).resolve_left
      (Nat.ne_of_lt short)
  · rintro ⟨there, _, _, starts⟩
    have present := (List.isPrefixOf_iff_prefix.mp starts).length_le
    rw [List.length_drop] at present
    change 2 ≤ _ at present
    omega
  · exact fun depth => scanFrom_depth _ depth line boundary.depth
  · have masked : (Phase.ofBoundary boundary).masked = .code := by
      rw [Phase.ofBoundary]
      split <;> rfl
    have again :=
      scanFrom_masked (Phase.ofBoundary boundary) boundary.depth line
    rwa [masked] at again

/-- A bracket in a string, an escape and a comment that is left open. -/
example :
    Boundary.scan .start (Text.ofString "a(\"(\\\"\", [b]) /* \x7b//") =
      ⟨⟨0, true⟩, Text.ofString "a(\"   \", [b])       "⟩ := by
  decide +kernel

end ClauseEditor.Indent
