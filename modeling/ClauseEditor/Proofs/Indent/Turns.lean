import ClauseEditor.Proofs.Indent.Gaps
import ClauseEditor.Proofs.Indent.Reading

/-!
# Where a scan can be resumed

The scan goes along a line in turns.  A turn takes the mark that opens or closes
a block comment, a whole string, or a single character; how far it looks ahead
depends on what it takes.  The scan ends where there is nothing left, or in code
where a line comment begins.

Nothing that a turn takes is read differently when the line is cut off where
this turn or a later one ends.  So wherever the scan stands between two turns,
the line can be broken: the front is scanned as before, it leaves the boundary
at which the scan stands, and the scan of the back goes on from there.
-/

namespace ClauseEditor.Indent

open ClauseEditor.Scallop

/-! ## Turns -/

/-- What one turn of the scan takes and where it leads. -/
structure Turn where
  boundary : Boundary
  /-- How many characters the turn takes. -/
  length : Nat
  /-- What the code text shows for them. -/
  code : Text
deriving DecidableEq

/-- The next turn of the scan, unless it has come to its end. -/
def Boundary.turn? (boundary : Boundary) : Text → Option Turn
  | [] => none
  | c :: rest =>
    if boundary.inComment then
      if Text.startsWith (c :: rest) blockCommentEnd then
        some ⟨⟨boundary.depth, false⟩, 2, Text.spaces 2⟩
      else some ⟨boundary, 1, [blank]⟩
    else if Text.startsWith (c :: rest) lineComment then none
    else if Text.startsWith (c :: rest) blockCommentStart then
      some ⟨⟨boundary.depth, true⟩, 2, Text.spaces 2⟩
    else if c = quote then
      match closingQuote? rest with
      | none =>
        some ⟨boundary, rest.length + 1, quote :: Text.spaces rest.length⟩
      | some close =>
        some ⟨boundary, close + 2,
          quote :: (Text.spaces close ++ [quote])⟩
    else some ⟨⟨depthAfter boundary.depth c, false⟩, 1, [c]⟩

/--
The scan of a line, which starts at a boundary, comes to stand at a position
between two turns, and what is left open there is `there`.
-/
inductive Stands : Boundary → Text → Boundary → Nat → Prop where
  | start (boundary : Boundary) (line : Text) :
      Stands boundary line boundary 0
  | turn
      {boundary there : Boundary}
      {line : Text}
      {turn : Turn}
      {position : Nat}
      (taken : boundary.turn? line = some turn)
      (further :
        Stands turn.boundary (line.drop turn.length) there position) :
      Stands boundary line there (turn.length + position)

/-! ## The scan goes in turns -/

/-- The scan takes its next turn and goes on behind it. -/
theorem scan_eq_elim_turn? (boundary : Boundary) (line : Text) :
    boundary.scan line =
      (boundary.turn? line).elim ⟨boundary, []⟩ fun turn =>
        (turn.boundary.scan (line.drop turn.length)).behind turn.code := by
  rcases boundary with ⟨depth, inComment⟩
  -- The cases are the branches of `turn?` in their order.
  fun_cases Boundary.turn? ⟨depth, inComment⟩ line with
  | case1 => exact scan_nil _
  | case2 c rest inside closes =>
      cases inside
      obtain ⟨behind, same⟩ := Text.exists_of_startsWith_pair closes
      rw [same]
      rfl
  | case3 c rest inside goesOn =>
      cases inside
      rw [blockCommentEnd, Text.startsWith_pair_iff] at goesOn
      exact scanFrom_comment_cons goesOn depth
  | case4 c rest outside ends =>
      cases Bool.eq_false_iff.mpr outside
      obtain ⟨behind, same⟩ := Text.exists_of_startsWith_pair ends
      rw [same]
      rfl
  | case5 c rest outside _ opens =>
      cases Bool.eq_false_iff.mpr outside
      obtain ⟨behind, same⟩ := Text.exists_of_startsWith_pair opens
      rw [same]
      rfl
  | case6 rest outside unclosed _ _ =>
      cases Bool.eq_false_iff.mpr outside
      have scanned := scanFrom_code_quote depth rest
      rw [scanFrom_string, unclosed] at scanned
      have nothing : (quote :: rest).drop (rest.length + 1) = [] :=
        List.drop_length
      rw [Option.elim_some, nothing, scan_nil, Scanned.behind,
        List.append_nil]
      exact scanned
  | case7 rest outside close found _ _ =>
      cases Bool.eq_false_iff.mpr outside
      have scanned := scanFrom_code_quote depth rest
      rw [scanFrom_string, found] at scanned
      exact scanned.trans (Scanned.behind_behind _ _ _)
  | case8 c rest outside noLine noBlock notQuote =>
      cases Bool.eq_false_iff.mpr outside
      rw [lineComment, Text.startsWith_pair_iff] at noLine
      rw [blockCommentStart, Text.startsWith_pair_iff] at noBlock
      exact scanFrom_code_cons noLine noBlock notQuote depth

theorem turn?_eq_none_iff {boundary : Boundary} {line : Text} :
    boundary.turn? line = none ↔
      line = [] ∨
        boundary.inComment = false ∧
          Text.startsWith line lineComment = true := by
  fun_cases Boundary.turn? boundary line <;> simp_all

/-- A turn takes some of the line and shows as much. -/
theorem length_of_turn?
    {boundary : Boundary}
    {line : Text}
    {turn : Turn}
    (taken : boundary.turn? line = some turn) :
    0 < turn.length ∧ turn.length ≤ line.length ∧
      turn.code.length = turn.length := by
  have two {text part : Text} (starts : Text.startsWith text part = true) :
      part.length ≤ text.length :=
    (List.isPrefixOf_iff_prefix.mp starts).length_le
  revert taken
  fun_cases Boundary.turn? boundary line with
  | case1 => rintro ⟨⟩
  | case2 c rest inside closes =>
      rintro ⟨⟩
      exact ⟨Nat.two_pos, two closes, rfl⟩
  | case3 c rest inside goesOn =>
      rintro ⟨⟩
      simp
  | case4 c rest outside ends => rintro ⟨⟩
  | case5 c rest outside noLine opens =>
      rintro ⟨⟩
      exact ⟨Nat.two_pos, two opens, rfl⟩
  | case6 rest outside unclosed noLine noBlock =>
      rintro ⟨⟩
      simp
  | case7 rest outside close found noLine noBlock =>
      rintro ⟨⟩
      have inside := lt_length_of_closingQuote? found
      exact ⟨Nat.succ_pos _, Nat.succ_le_succ inside, by simp⟩
  | case8 c rest outside noLine noBlock notQuote =>
      rintro ⟨⟩
      simp

/-! ## Lines that are cut off -/

/-- A turn is the same in a line that is cut off behind it. -/
theorem turn?_take
    {boundary : Boundary}
    {line : Text}
    {turn : Turn}
    (taken : boundary.turn? line = some turn)
    (more : Nat) :
    boundary.turn? (line.take (turn.length + more)) = some turn := by
  have cut (c : CodePoint) (rest : Text) (length : Nat) :
      (c :: rest).take (length + 1 + more) =
        c :: rest.take (length + more) := by
    rw [Nat.add_right_comm, List.take_succ_cons]
  -- A mark that a turn found is kept, and cutting brings no other one about.
  have absent {c : CodePoint} {rest part : Text} (count : Nat)
      (absent : ¬ Text.startsWith (c :: rest) part = true) :
      ¬ Text.startsWith (c :: rest.take count) part = true := by
    intro starts
    rw [← List.take_succ_cons, Text.startsWith_take] at starts
    exact absent starts.1
  revert taken
  fun_cases Boundary.turn? boundary line with
  | case1 => rintro ⟨⟩
  | case2 c rest inside closes =>
      rintro ⟨⟩
      have kept := Text.startsWith_take.mpr ⟨closes, Nat.le_add_right 2 more⟩
      dsimp only
      rw [cut] at kept ⊢
      rw [Boundary.turn?, if_pos inside, if_pos kept]
  | case3 c rest inside goesOn =>
      rintro ⟨⟩
      dsimp only
      rw [← Nat.zero_add 1, cut, Boundary.turn?, if_pos inside,
        if_neg (absent _ goesOn)]
  | case4 c rest outside ends => rintro ⟨⟩
  | case5 c rest outside noLine opens =>
      rintro ⟨⟩
      have kept := Text.startsWith_take.mpr ⟨opens, Nat.le_add_right 2 more⟩
      dsimp only
      rw [cut] at kept ⊢
      rw [Boundary.turn?, if_neg outside, if_neg (absent _ noLine),
        if_pos kept]
  | case6 rest outside unclosed noLine noBlock =>
      rintro ⟨⟩
      dsimp only
      rw [cut, List.take_of_length_le (Nat.le_add_right _ more),
        Boundary.turn?, if_neg outside, if_neg noLine, if_neg noBlock,
        if_pos rfl, unclosed]
  | case7 rest outside close found noLine noBlock =>
      rintro ⟨⟩
      dsimp only
      rw [cut, Boundary.turn?, if_neg outside, if_neg (absent _ noLine),
        if_neg (absent _ noBlock), if_pos rfl, closingQuote?_take found]
  | case8 c rest outside noLine noBlock notQuote =>
      rintro ⟨⟩
      dsimp only
      rw [← Nat.zero_add 1, cut, Boundary.turn?, if_neg outside,
        if_neg (absent _ noLine), if_neg (absent _ noBlock),
        if_neg notQuote]

/-! ## Resuming a scan -/

/--
Where the scan stands between two turns it can be resumed: up to there it is
the scan of the front of the line, and from there on the scan of the back.
-/
theorem Stands.scan_eq
    {boundary there : Boundary}
    {line : Text}
    {position : Nat}
    (stands : Stands boundary line there position) :
    boundary.after (line.take position) = there ∧
      boundary.scan line =
        (there.scan (line.drop position)).behind
          (boundary.scan (line.take position)).code := by
  induction stands with
  | start boundary line =>
      rw [List.take_zero, List.drop_zero, Boundary.after, scan_nil]
      exact ⟨rfl, rfl⟩
  | @turn boundary there line turn position taken further induction =>
      have front :=
        scan_eq_elim_turn? boundary (line.take (turn.length + position))
      rw [turn?_take taken, Option.elim_some, List.drop_take,
        Nat.add_sub_cancel_left] at front
      have whole := scan_eq_elim_turn? boundary line
      rw [taken, Option.elim_some, induction.2, Scanned.behind_behind,
        List.drop_drop] at whole
      refine ⟨?_, ?_⟩
      · rw [Boundary.after, front]
        exact induction.1
      · rw [whole, front]
        rfl

theorem boundaryBefore_empty (lines : List Text) (line : Nat) :
    (Memo.empty.boundaryBefore lines line).1 = boundaryAt lines line := by
  have coherent := Memo.coherent_iff.mp (Memo.coherent_empty lines)
  rw [Memo.boundaryBefore_fst (coherent lines.length)
      (Memo.clampIndex_le lines line),
    boundaryAt_clampIndex, Int.toNat_natCast]

/-- Lines below one that is broken have the boundaries that they had. -/
theorem boundaryAt_below_broken
    {above : List Text}
    {left right : Text}
    (resumed :
      ((boundaryAt above above.length).after left).after right =
        (boundaryAt above above.length).after (left ++ right))
    (below : List Text)
    (line : Nat) :
    boundaryAt (above ++ left :: right :: below) (above.length + (line + 2)) =
      boundaryAt (above ++ (left ++ right) :: below)
        (above.length + (line + 1)) := by
  rw [boundaryAt, List.take_length] at resumed
  rw [boundaryAt_append, boundaryAt_append, List.take_succ_cons,
    List.take_succ_cons, List.take_succ_cons, List.foldl_cons,
    List.foldl_cons, List.foldl_cons, resumed]

/--
Where the scan of a line stands between two turns, the line can be scanned in
two parts.  Breaking it there changes the boundary before no later line.
-/
theorem scan_append_of_stands
    {boundary there : Boundary}
    {left right : Text}
    (stands : Stands boundary (left ++ right) there left.length) :
    boundary.scan (left ++ right) =
        ⟨((boundary.after left).scan right).boundary,
          (boundary.scan left).code ++
            ((boundary.after left).scan right).code⟩ ∧
      ∀ above below : List Text,
        (Memo.empty.boundaryBefore (above ++ (left ++ right) :: below)
            above.length).1 = boundary →
          ∀ line : Nat,
            (Memo.empty.boundaryBefore (above ++ left :: right :: below)
                (above.length + (line + 2) : Nat)).1 =
              (Memo.empty.boundaryBefore (above ++ (left ++ right) :: below)
                (above.length + (line + 1) : Nat)).1 := by
  obtain ⟨front, whole⟩ := stands.scan_eq
  rw [List.take_left] at front
  rw [List.take_left, List.drop_left, ← front] at whole
  refine ⟨whole, ?_⟩
  intro above below before line
  have start : boundaryAt above above.length = boundary := by
    rw [boundaryBefore_empty, ← Nat.add_zero above.length,
      boundaryAt_append] at before
    rwa [boundaryAt, List.take_length]
  rw [boundaryBefore_empty, boundaryBefore_empty]
  apply boundaryAt_below_broken
  rw [start, Boundary.after, Boundary.after, Boundary.after, whole]
  rfl

/-- The line is broken between a string and the start of a block comment. -/
theorem scan_append_of_stands_sample :
    let left := Text.ofString "*/\"(\""
    let right := Text.ofString "/*) \""
    let above := ["p(a, /*"].map Text.ofString
    let below := ["*/ b"].map Text.ofString
    Stands ⟨1, true⟩ (left ++ right) ⟨1, false⟩ left.length ∧
      (Memo.empty.boundaryBefore (above ++ (left ++ right) :: below)
        above.length).1 = ⟨1, true⟩ ∧
      (Boundary.scan ⟨1, true⟩ (left ++ right)).code =
        Text.ofString "  \" \"     " ∧
      (Memo.empty.boundaryBefore (above ++ left :: right :: below) 3).1 =
        ⟨1, true⟩ := by
  intro left right above below
  have comment :
      Boundary.turn? ⟨1, true⟩ (left ++ right) =
        some ⟨⟨1, false⟩, 2, Text.spaces 2⟩ := by
    decide +kernel
  have string :
      Boundary.turn? ⟨1, false⟩ ((left ++ right).drop 2) =
        some ⟨⟨1, false⟩, 3, Text.ofString "\" \""⟩ := by
    decide +kernel
  have stands : Stands ⟨1, true⟩ (left ++ right) ⟨1, false⟩ left.length :=
    .turn comment (.turn string (.start _ _))
  have before :
      (Memo.empty.boundaryBefore (above ++ (left ++ right) :: below)
        above.length).1 = ⟨1, true⟩ := by
    decide +kernel
  obtain ⟨scanned, later⟩ := scan_append_of_stands stands
  refine ⟨stands, before, ?_, (later above below before 0).trans ?_⟩
  · rw [scanned]
    decide +kernel
  · decide +kernel

end ClauseEditor.Indent
