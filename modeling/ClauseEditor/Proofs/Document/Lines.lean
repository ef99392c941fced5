import ClauseEditor.Document.Units
import ClauseEditor.Proofs.Text.Lines
import ClauseEditor.Proofs.Text.Utf16

/-!
# Lines of a content

The lines of a content are its pieces between the separators.  A content is
taken apart around one of its lines into the lines above, each with the
separator after it, the line, and the lines below, each with the separator
before it.  An edit inside the line then leaves the other two parts alone.

A position cuts a content in two.  The lines above the line of the position
are determined by the part before it.
-/

namespace ClauseEditor.Document

theorem linesOf_eq (content : List CodeUnit) :
    linesOf content = content.splitOn separator := by
  induction content with
  | nil => rfl
  | cons unit rest induction =>
      rw [linesOf, List.splitOn_cons_eq_if_modifyHead, induction]
      simp only [beq_iff_eq]
      split
      · rfl
      · cases lines : rest.splitOn separator with
        | nil => exact absurd lines (List.splitOn_ne_nil separator rest)
        | cons line lines => rfl

/-- A separator ends a line. -/
theorem linesOf_append_separator (left right : List CodeUnit) :
    linesOf (left ++ separator :: right) = linesOf left ++ linesOf right := by
  simp only [linesOf_eq]
  exact List.splitOn_append_cons_self left right

theorem linesOf_of_notMem
    {line : List CodeUnit}
    (whole : separator ∉ line) :
    linesOf line = [line] := by
  rw [linesOf_eq]
  exact List.splitOn_eq_singleton whole

/-- A line holds no separator. -/
theorem notMem_of_mem_linesOf
    {content line : List CodeUnit}
    (member : line ∈ linesOf content) :
    separator ∉ line := by
  rw [linesOf_eq] at member
  exact notMem_of_mem_splitOn member

/-! ## Around a line -/

/-- Lines that stand above another one. -/
def above (lines : List (List CodeUnit)) : List CodeUnit :=
  lines.flatMap fun line => line ++ [separator]

/-- Lines that stand below another one. -/
def below (lines : List (List CodeUnit)) : List CodeUnit :=
  lines.flatMap fun line => separator :: line

@[simp]
theorem above_nil : above [] = [] := rfl

@[simp]
theorem below_nil : below [] = [] := rfl

@[simp]
theorem below_append (first second : List (List CodeUnit)) :
    below (first ++ second) = below first ++ below second :=
  List.flatMap_append

@[simp]
theorem above_cons (line : List CodeUnit) (lines : List (List CodeUnit)) :
    above (line :: lines) = line ++ separator :: above lines := by
  simp [above]

@[simp]
theorem below_cons (line : List CodeUnit) (lines : List (List CodeUnit)) :
    below (line :: lines) = separator :: line ++ below lines := by
  simp [below]

/-- The lines of a content that is put together around some units. -/
theorem linesOf_around
    {before after : List (List CodeUnit)}
    (beforeWhole : ∀ line ∈ before, separator ∉ line)
    (afterWhole : ∀ line ∈ after, separator ∉ line)
    (units : List CodeUnit) :
    linesOf (above before ++ units ++ below after) =
      before ++ linesOf units ++ after := by
  induction before with
  | nil =>
      simp only [above_nil, List.nil_append]
      induction after generalizing units with
      | nil => simp
      | cons line after induction =>
          have lineWhole := afterWhole line List.mem_cons_self
          rw [below_cons, List.cons_append, linesOf_append_separator,
            induction (fun other member =>
              afterWhole other (List.mem_cons_of_mem line member)),
            linesOf_of_notMem lineWhole]
          simp
  | cons line before induction =>
      have lineWhole := beforeWhole line List.mem_cons_self
      rw [above_cons, List.append_assoc, List.append_assoc, List.cons_append,
        linesOf_append_separator, linesOf_of_notMem lineWhole,
        ← List.append_assoc, induction (fun other member =>
          beforeWhole other (List.mem_cons_of_mem line member))]
      simp

theorem above_append_below
    (before after : List (List CodeUnit))
    (line : List CodeUnit) :
    above before ++ line ++ below after =
      [separator].intercalate (before ++ line :: after) := by
  induction before with
  | nil =>
      induction after generalizing line with
      | nil => simp
      | cons next after induction =>
          have rest := induction next
          simp only [above_nil, List.nil_append] at rest ⊢
          rw [below_cons, List.intercalate_cons_cons, ← rest]
          simp
  | cons first before induction =>
      have nonempty : before ++ line :: after ≠ [] := by simp
      rw [List.cons_append, List.intercalate_cons_of_ne_nil nonempty,
        ← induction, above_cons]
      simp

/-- A content taken apart around one of its lines. -/
theorem content_eq_around
    {content : List CodeUnit}
    {line : Nat}
    (present : line < (linesOf content).length) :
    content =
      above ((linesOf content).take line) ++ (linesOf content)[line] ++
        below ((linesOf content).drop (line + 1)) := by
  rw [above_append_below, ← List.drop_eq_getElem_cons present,
    List.take_append_drop, linesOf_eq]
  exact (List.intercalate_splitOn separator).symm

theorem mem_of_mem_linesOf
    {content line : List CodeUnit}
    (listed : line ∈ linesOf content)
    {unit : CodeUnit}
    (member : unit ∈ line) :
    unit ∈ content := by
  rcases List.getElem_of_mem listed with ⟨number, present, rfl⟩
  rw [content_eq_around present]
  exact List.mem_append_left _ (List.mem_append_right _ member)

theorem lineStart_eq (content : List CodeUnit) (line : Nat) :
    lineStart content line = (above ((linesOf content).take line)).length := by
  rw [lineStart]
  induction (linesOf content).take line with
  | nil => rfl
  | cons units lines induction =>
      rw [List.foldr_cons, induction, above_cons, List.length_append,
        List.length_cons]
      omega

theorem count_separator_above
    {lines : List (List CodeUnit)}
    (whole : ∀ line ∈ lines, separator ∉ line) :
    (above lines).count separator = lines.length := by
  induction lines with
  | nil => rfl
  | cons line lines induction =>
      have lineWhole := whole line List.mem_cons_self
      rw [above_cons, List.count_append, List.count_cons_self,
        List.count_eq_zero_of_not_mem lineWhole,
        induction fun other member =>
          whole other (List.mem_cons_of_mem line member)]
      simp

/-! ## Positions -/

theorem lineAt_lt_length (content : List CodeUnit) (position : Nat) :
    lineAt content position < (linesOf content).length := by
  rw [length_linesOf, lineAt]
  have fewer :=
    (List.take_sublist position content).count_le separator
  omega

theorem lineAt_mono
    (content : List CodeUnit)
    {first second : Nat}
    (ordered : first ≤ second) :
    lineAt content first ≤ lineAt content second := by
  rw [lineAt, lineAt]
  have prefixed : content.take first <+: content.take second :=
    List.take_prefix_take_left ordered
  exact prefixed.sublist.count_le separator

/-- A line that is there ends inside the content. -/
theorem lineStart_add_length_le
    {content : List CodeUnit}
    {line : Nat}
    (present : line < (linesOf content).length) :
    lineStart content line + (linesOf content)[line].length ≤
      content.length := by
  have whole := congrArg List.length (content_eq_around present)
  rw [List.length_append, List.length_append] at whole
  rw [lineStart_eq]
  omega

/-- The lines that end before a position, by the units before it alone. -/
theorem take_linesOf_append (left right : List CodeUnit) :
    (linesOf (left ++ right)).take (left.count separator) =
      (linesOf left).take (left.count separator) := by
  induction left with
  | nil => rfl
  | cons unit left induction =>
      rw [List.cons_append, linesOf, linesOf]
      by_cases same : unit = separator
      · simp [same, induction]
      · rw [if_neg same, if_neg same, List.count_cons_of_ne same]
        cases count : left.count separator with
        | zero => simp
        | succ others =>
            rw [count] at induction
            cases longer : linesOf (left ++ right) with
            | nil => exact absurd longer (linesOf_ne_nil _)
            | cons longerHead longerTail =>
                cases shorter : linesOf left with
                | nil => exact absurd shorter (linesOf_ne_nil _)
                | cons shorterHead shorterTail =>
                    simpa [longer, shorter] using induction

/-- Contents that agree up to a position agree on the lines above it. -/
theorem take_textsOf_of_take_eq
    {left right : List CodeUnit}
    {position : Nat}
    (same : left.take position = right.take position) :
    (textsOf left).take (lineAt left position) =
      (textsOf right).take (lineAt left position) := by
  have lines (content : List CodeUnit) :
      (linesOf content).take ((content.take position).count separator) =
        (linesOf (content.take position)).take
          ((content.take position).count separator) := by
    have split :=
      take_linesOf_append (content.take position) (content.drop position)
    rwa [List.take_append_drop] at split
  have rightLines := lines right
  rw [← same] at rightLines
  rw [textsOf, textsOf, lineAt, ← List.map_take, ← List.map_take,
    lines left, rightLines]

@[simp]
theorem length_textsOf (content : List CodeUnit) :
    (textsOf content).length = (linesOf content).length :=
  List.length_map Utf16.decode

theorem getD_textsOf
    {content : List CodeUnit}
    {line : Nat}
    (present : line < (linesOf content).length) :
    (textsOf content).getD line [] = Utf16.decode (linesOf content)[line] := by
  simp [textsOf, List.getD, present]

/-! ## Replacing the front of a line -/

section Front

variable
    {content : List CodeUnit}
    {line : Nat}
    (present : line < (linesOf content).length)

include present

theorem take_lineStart :
    content.take (lineStart content line) =
      above ((linesOf content).take line) := by
  conv =>
    lhs
    arg 2
    rw [content_eq_around present, List.append_assoc]
  rw [lineStart_eq, List.take_left]

theorem drop_lineStart :
    content.drop (lineStart content line) =
      (linesOf content)[line] ++ below ((linesOf content).drop (line + 1)) := by
  conv =>
    lhs
    arg 2
    rw [content_eq_around present, List.append_assoc]
  rw [lineStart_eq, List.drop_left]

/-- A position in a line, or at its end, belongs to the line. -/
theorem lineAt_lineStart_add
    {column : Nat}
    (within : column ≤ (linesOf content)[line].length) :
    lineAt content (lineStart content line + column) = line := by
  have lineWhole : separator ∉ (linesOf content)[line] :=
    notMem_of_mem_linesOf (List.getElem_mem present)
  have front :
      (content.drop (lineStart content line)).take column =
        (linesOf content)[line].take column := by
    rw [drop_lineStart present, List.take_append_of_le_length within]
  have aboveCount :
      (above ((linesOf content).take line)).count separator = line := by
    rw [count_separator_above, List.length_take_of_le (Nat.le_of_lt present)]
    intro other member
    exact notMem_of_mem_linesOf (List.mem_of_mem_take member)
  have frontCount :
      ((linesOf content)[line].take column).count separator = 0 := by
    apply List.count_eq_zero_of_not_mem
    intro member
    exact lineWhole (List.mem_of_mem_take member)
  rw [lineAt, List.take_add, List.count_append, front,
    take_lineStart present, aboveCount, frontCount, Nat.add_zero]

/-- A position above a line comes before its start. -/
theorem lt_lineStart_of_lineAt_lt
    {position : Nat}
    (higher : lineAt content position < line) :
    position < lineStart content line := by
  apply Nat.lt_of_not_le
  intro behind
  have start : lineAt content (lineStart content line + 0) = line :=
    lineAt_lineStart_add present (Nat.zero_le _)
  have ordered := lineAt_mono content behind
  rw [Nat.add_zero] at start
  omega

/-- Other units in the place of the first ones of a line. -/
theorem textsOf_replaceFront
    {width : Nat}
    (within : width ≤ (linesOf content)[line].length)
    {front : List CodeUnit}
    (whole : separator ∉ front) :
    textsOf
        (content.take (lineStart content line) ++ front ++
          content.drop (lineStart content line + width)) =
      (textsOf content).set line
        (Utf16.decode (front ++ (linesOf content)[line].drop width)) := by
  have lineWhole : separator ∉ (linesOf content)[line] :=
    notMem_of_mem_linesOf (List.getElem_mem present)
  have replacedWhole :
      separator ∉ front ++ (linesOf content)[line].drop width := by
    intro member
    rcases List.mem_append.mp member with before | behind
    · exact whole before
    · exact lineWhole (List.mem_of_mem_drop behind)
  have parted :
      content.take (lineStart content line) ++ front ++
          content.drop (lineStart content line + width) =
        above ((linesOf content).take line) ++
          (front ++ (linesOf content)[line].drop width) ++
          below ((linesOf content).drop (line + 1)) := by
    rw [← List.drop_drop, take_lineStart present, drop_lineStart present,
      List.drop_append_of_le_length within]
    simp only [List.append_assoc]
  rw [textsOf, parted, linesOf_around, linesOf_of_notMem replacedWhole,
    textsOf, ← List.map_set, List.set_eq_take_append_cons_drop,
    if_pos present, List.append_assoc, List.singleton_append]
  · exact fun other member =>
      notMem_of_mem_linesOf (List.mem_of_mem_take member)
  · exact fun other member =>
      notMem_of_mem_linesOf (List.mem_of_mem_drop member)

end Front

/-! ## Line ends -/

/-- The content holds no unit that would end a line but separators. -/
def Settled (content : List CodeUnit) : Prop :=
  ∀ unit ∈ content, endsLine unit = true → unit = separator

theorem Settled.append
    {left right : List CodeUnit}
    (leftSettled : Settled left)
    (rightSettled : Settled right) :
    Settled (left ++ right) := by
  intro unit member
  rcases List.mem_append.mp member with before | behind
  · exact leftSettled unit before
  · exact rightSettled unit behind

theorem Settled.sublist
    {shorter longer : List CodeUnit}
    (settled : Settled longer)
    (sublist : shorter.Sublist longer) :
    Settled shorter :=
  fun unit member => settled unit (sublist.subset member)

theorem settled_normalised (units : List CodeUnit) :
    Settled (normalised units) := by
  fun_induction normalised units with
  | case1 => simp [Settled]
  | case2 => simp [Settled]
  | case3 unit plain => simp [Settled, plain]
  | case4 unit next rest paired induction =>
      intro other member
      rcases List.mem_cons.mp member with rfl | behind
      · exact fun _ => rfl
      · exact induction other behind
  | case5 unit next rest single ends induction =>
      intro other member
      rcases List.mem_cons.mp member with rfl | behind
      · exact fun _ => rfl
      · exact induction other behind
  | case6 unit next rest single plain induction =>
      intro other member
      rcases List.mem_cons.mp member with rfl | behind
      · exact fun ends => absurd ends plain
      · exact induction other behind

theorem settled_contentOf (text : Text) : Settled (contentOf text) :=
  settled_normalised _

/-- Units that end no line enter a document as they are. -/
theorem normalised_of_forall
    {units : List CodeUnit}
    (plain : ∀ unit ∈ units, endsLine unit = false) :
    normalised units = units := by
  fun_induction normalised units with
  | case1 => rfl
  | case2 unit ends => simp [ends] at plain
  | case3 => rfl
  | case4 unit next rest paired induction =>
      have ends : endsLine unit = true := by simp [endsLine, paired.1]
      simp [ends] at plain
  | case5 unit next rest single ends induction => simp [ends] at plain
  | case6 unit next rest single _ induction =>
      rw [induction fun other member =>
        plain other (List.mem_cons_of_mem unit member)]

/-- Separators stand between the lines, so no unit of a line ends one. -/
theorem Settled.endsLine_eq_false
    {content line : List CodeUnit}
    (settled : Settled content)
    (listed : line ∈ linesOf content)
    {unit : CodeUnit}
    (member : unit ∈ line) :
    endsLine unit = false := by
  apply Bool.eq_false_iff.mpr
  intro ends
  have same := settled unit (mem_of_mem_linesOf listed member) ends
  subst same
  exact notMem_of_mem_linesOf listed member

/-- A line of a settled content enters a document as it is. -/
theorem Settled.contentOf_decode
    {content line : List CodeUnit}
    (settled : Settled content)
    (listed : line ∈ linesOf content) :
    contentOf (Utf16.decode line) = line := by
  have plain : ∀ unit ∈ line, endsLine unit = false :=
    fun _ => settled.endsLine_eq_false listed
  rw [contentOf, Utf16.encode_decode, normalised_of_forall plain]

/-- No line of a settled content holds a line feed or a carriage return. -/
theorem Settled.notMem_textsOf
    {content : List CodeUnit}
    (settled : Settled content)
    {text : Text}
    (listed : text ∈ textsOf content)
    {c : CodePoint}
    (ends : c.val = 0x0A ∨ c.val = 0x0D) :
    c ∉ text := by
  intro member
  rcases List.mem_map.mp listed with ⟨line, lineListed, rfl⟩
  rcases Utf16.exists_mem_of_mem_decode member (by omega) with
    ⟨unit, unitMember, rfl⟩
  have unitEnds : endsLine unit = true := by
    change unit.val = 0x0A ∨ unit.val = 0x0D at ends
    rcases ends with feed | carriage
    · simp [endsLine, feed]
    · simp [endsLine, carriage]
  rw [settled.endsLine_eq_false lineListed unitMember] at unitEnds
  exact Bool.false_ne_true unitEnds

end ClauseEditor.Document
