import ClauseEditor.Proofs.Highlight.Agreement
import ClauseEditor.Proofs.Highlight.Delimiters

/-!
# Borders of literals

A line can be cut on each side of a delimiter: its tokens are those of its two
parts, and so are its roles, as long as literals are left aside.  Every literal
starts and ends at such a border.  So no token crosses into a literal or out of
it, and what stands between two literals has its colours from itself alone.
-/

namespace ClauseEditor.Highlight

open ClauseEditor.Scallop

/-! ## Cutting a line -/

/-- A delimiter stands on one side, or there is nothing on one side. -/
def IsBorder (left right : List CodeUnit) : Prop :=
  (∀ unit ∈ left.getLast?, isDelimiter unit.single = true) ∨ Stops right

theorem IsBorder.take
    {left right : List CodeUnit}
    (border : IsBorder left right)
    (count : Nat) :
    IsBorder left (right.take count) := by
  rcases border with last | stops
  · exact .inl last
  · refine .inr fun unit found => stops unit ?_
    rw [Option.mem_def, List.head?_take] at found
    split at found
    · cases found
    · exact found

theorem IsBorder.of_append
    {front left right : List CodeUnit}
    (border : IsBorder (front ++ left) right) :
    IsBorder left right := by
  rcases border with last | stops
  · refine .inl fun unit found => last unit ?_
    rw [Option.mem_def] at found
    rw [List.getLast?_append, found]
    rfl
  · exact .inr stops

/-- What is recognised in front of a border does not depend on what is behind. -/
theorem Recogniser.IsDelimited.append
    {recognise : Recogniser}
    (delimited : recognise.IsDelimited)
    {unit : CodeUnit}
    {units right : List CodeUnit}
    (border : IsBorder (unit :: units) right)
    (before : Option CodeUnit) :
    recognise before (unit :: (units ++ right)) =
      recognise before (unit :: units) := by
  rcases border with last | stops
  · rcases List.eq_nil_or_concat units with rfl | ⟨inner, final, rfl⟩
    · have delimiter := last unit rfl
      rw [delimited.alone delimiter before ([] ++ right),
        delimited.alone delimiter before []]
    · have delimiter := last final (by simp [List.getLast?_cons])
      rw [List.concat_eq_append, List.append_assoc, List.singleton_append,
        delimited.ahead (stops_cons delimiter right),
        delimited.ahead (stops_cons delimiter [])]
  · exact delimited.ahead stops before unit units

theorem Span.covers_iff {span : Span} {position : Nat} :
    span.covers position = true ↔
      span.start ≤ position ∧ position < span.start + span.length := by
  simp [Span.covers]

/-- A stretch of a line that is put behind some units. -/
def Span.shift (span : Span) (count : Nat) : Span :=
  ⟨count + span.start, span.length⟩

theorem Span.covers_shift_iff {span : Span} {count position : Nat} :
    (span.shift count).covers position = true ↔
      count ≤ position ∧ span.covers (position - count) = true := by
  rw [Span.covers_iff, Span.covers_iff, Span.shift]
  dsimp only
  omega

section Tokens

variable {recognise : Recogniser}

theorem tokensFrom_shift
    (used : Nat)
    (before : Option CodeUnit)
    (count position : Nat)
    (units : List CodeUnit) :
    tokensFrom recognise used before (count + position) units =
      (tokensFrom recognise used before position units).map
        (·.shift count) := by
  induction units generalizing used before position with
  | nil => rfl
  | cons unit units induction =>
      cases used with
      | succ used => exact induction used (some unit) (position + 1)
      | zero =>
          rw [tokensFrom, tokensFrom]
          cases recognise before (unit :: units) with
          | none => exact induction 0 (some unit) (position + 1)
          | some token =>
              dsimp only
              rw [List.map_cons, Nat.add_assoc count position 1, induction,
                Nat.add_assoc]
              rfl

/-- A search that starts at a border starts like one in a new line. -/
theorem tokensFrom_of_border
    (delimited : recognise.IsDelimited)
    {before : Option CodeUnit}
    {units : List CodeUnit}
    (border : IsBorder before.toList units)
    (position : Nat) :
    tokensFrom recognise 0 before position units =
      tokensFrom recognise 0 none position units := by
  cases units with
  | nil => rfl
  | cons unit units =>
      have same :
          recognise before (unit :: units) =
            recognise none (unit :: units) := by
        rcases border with last | stops
        · cases before with
          | none => rfl
          | some previous => exact delimited.behind (last previous rfl) _
        · have delimiter := stops unit rfl
          rw [delimited.alone delimiter before units,
            delimited.alone delimiter none units]
      rw [tokensFrom, tokensFrom, same]

theorem tokensFrom_append
    (delimited : recognise.IsDelimited)
    {left right : List CodeUnit}
    {used : Nat}
    {before : Option CodeUnit}
    (border : IsBorder (before.toList ++ left) right)
    (inside : used ≤ left.length)
    (position : Nat) :
    tokensFrom recognise used before position (left ++ right) =
      tokensFrom recognise used before position left ++
        tokensFrom recognise 0 none (position + left.length) right := by
  induction left generalizing used before position with
  | nil =>
      cases Nat.le_zero.mp inside
      rw [List.append_nil] at border
      exact tokensFrom_of_border delimited border position
  | cons unit left induction =>
      have further : IsBorder ((some unit).toList ++ left) right :=
        border.of_append
      have width :
          position + (unit :: left).length = position + 1 + left.length := by
        rw [List.length_cons]
        omega
      rw [List.cons_append, width]
      cases used with
      | succ used =>
          exact
            induction further (Nat.le_of_succ_le_succ inside) (position + 1)
      | zero =>
          rw [tokensFrom, tokensFrom, delimited.append border.of_append]
          cases found : recognise before (unit :: left) with
          | none => exact induction further (Nat.zero_le _) (position + 1)
          | some token =>
              have short : token.total - 1 ≤ left.length :=
                Nat.sub_le_of_le_add (delimited.inside found).2
              dsimp only
              rw [induction further short (position + 1), List.cons_append]

/-- The tokens of a line are those of its parts. -/
theorem tokens_append
    (delimited : recognise.IsDelimited)
    {left right : List CodeUnit}
    (border : IsBorder left right) :
    tokens recognise (left ++ right) =
      tokens recognise left ++
        (tokens recognise right).map (·.shift left.length) := by
  have parts :=
    @tokensFrom_append recognise delimited left right 0 none border
      (Nat.zero_le _) 0
  rw [Nat.zero_add, ← Nat.add_zero left.length, tokensFrom_shift] at parts
  exact parts

theorem le_of_mem_tokensFrom
    (delimited : recognise.IsDelimited)
    {units : List CodeUnit}
    {used position : Nat}
    {before : Option CodeUnit}
    {span : Span}
    (member : span ∈ tokensFrom recognise used before position units) :
    span.start + span.length ≤ position + units.length := by
  induction units generalizing used before position with
  | nil => cases member
  | cons unit units induction =>
      have behind
          {used : Nat}
          (member :
            span ∈ tokensFrom recognise used (some unit) (position + 1)
              units) :
          span.start + span.length ≤ position + (unit :: units).length := by
        have further := induction member
        rw [List.length_cons]
        omega
      cases used with
      | succ used => exact behind member
      | zero =>
          rw [tokensFrom] at member
          cases found : recognise before (unit :: units) with
          | none =>
              rw [found] at member
              exact behind member
          | some token =>
              rw [found] at member
              rcases List.mem_cons.mp member with rfl | member
              · have inside := delimited.inside found
                dsimp only
                omega
              · exact behind member

theorem le_of_mem_tokens
    (delimited : recognise.IsDelimited)
    {units : List CodeUnit}
    {span : Span}
    (member : span ∈ tokens recognise units) :
    span.start + span.length ≤ units.length := by
  have inside := le_of_mem_tokensFrom delimited member
  rwa [Nat.zero_add] at inside

end Tokens

/-! ## Painting parts of a line -/

section Painting

variable (role : Role) (left right : Roles)

theorem length_paint (roles : Roles) (span : Span) :
    (paint role roles span).length = roles.length :=
  List.length_mapIdx

theorem getElem?_paint (roles : Roles) (span : Span) (position : Nat) :
    (paint role roles span)[position]? =
      roles[position]?.map fun old =>
        if span.covers position then some role else old :=
  List.getElem?_mapIdx

theorem paint_append_left
    {span : Span}
    (inside : span.start + span.length ≤ left.length) :
    paint role (left ++ right) span = paint role left span ++ right := by
  apply List.ext_getElem?
  intro position
  rcases Nat.lt_or_ge position left.length with front | behind
  · rw [getElem?_paint, List.getElem?_append_left front,
      List.getElem?_append_left (by rwa [length_paint]), getElem?_paint]
  · have outside : ¬ span.covers position = true := by
      rw [Span.covers_iff]
      omega
    rw [getElem?_paint, List.getElem?_append_right behind,
      List.getElem?_append_right (by rwa [length_paint]), length_paint]
    simp [outside]

theorem paint_append_right (span : Span) :
    paint role (left ++ right) (span.shift left.length) =
      left ++ paint role right span := by
  apply List.ext_getElem?
  intro position
  rcases Nat.lt_or_ge position left.length with front | behind
  · have outside : ¬ (span.shift left.length).covers position = true := by
      rw [Span.covers_shift_iff]
      omega
    rw [getElem?_paint, List.getElem?_append_left front,
      List.getElem?_append_left front]
    simp [outside]
  · have same :
        (span.shift left.length).covers position =
          span.covers (position - left.length) := by
      rw [Bool.eq_iff_iff, Span.covers_shift_iff]
      exact and_iff_right behind
    rw [getElem?_paint, List.getElem?_append_right behind,
      List.getElem?_append_right behind, getElem?_paint, same]

theorem length_foldl_paint (roles : Roles) (spans : List Span) :
    (spans.foldl (paint role) roles).length = roles.length := by
  induction spans generalizing roles with
  | nil => rfl
  | cons span spans induction =>
      rw [List.foldl_cons, induction, length_paint]

theorem foldl_paint_append_left
    {spans : List Span}
    (inside : ∀ span ∈ spans, span.start + span.length ≤ left.length) :
    spans.foldl (paint role) (left ++ right) =
      spans.foldl (paint role) left ++ right := by
  induction spans generalizing left with
  | nil => rfl
  | cons span spans induction =>
      rw [List.foldl_cons, List.foldl_cons,
        paint_append_left role left right (inside span List.mem_cons_self),
        induction]
      intro other member
      rw [length_paint]
      exact inside other (List.mem_cons_of_mem span member)

theorem foldl_paint_append_right (spans : List Span) :
    (spans.map (·.shift left.length)).foldl (paint role) (left ++ right) =
      left ++ spans.foldl (paint role) right := by
  induction spans generalizing right with
  | nil => rfl
  | cons span spans induction =>
      rw [List.map_cons, List.foldl_cons, List.foldl_cons, paint_append_right,
        induction]

end Painting

theorem length_paintRule
    (units : List CodeUnit)
    (roles : Roles)
    (rule : Role × Recogniser) :
    (paintRule units roles rule).length = roles.length :=
  length_foldl_paint rule.1 roles (tokens rule.2 units)

/-- Every unit of a line has a place for its role. -/
theorem length_tokenRoles (units : List CodeUnit) :
    (tokenRoles units).length = units.length := by
  have painted (kinds : List (Role × Recogniser)) (roles : Roles) :
      (kinds.foldl (paintRule units) roles).length = roles.length := by
    induction kinds generalizing roles with
    | nil => rfl
    | cons rule kinds induction =>
        rw [List.foldl_cons, induction, length_paintRule]
  simp only [tokenRoles]
  split
  · rw [painted, List.length_map]
  · exact List.length_map _

section Rules

variable {left right : List CodeUnit} (border : IsBorder left right)

include border

/-- The tokens of one kind are painted in each part of a line by itself. -/
theorem paintRule_append
    {rule : Role × Recogniser}
    (delimited : rule.2.IsDelimited)
    {leftRoles : Roles}
    (width : leftRoles.length = left.length)
    (rightRoles : Roles) :
    paintRule (left ++ right) (leftRoles ++ rightRoles) rule =
      paintRule left leftRoles rule ++ paintRule right rightRoles rule := by
  have inside (span : Span) (member : span ∈ tokens rule.2 left) :
      span.start + span.length ≤ leftRoles.length :=
    width ▸ le_of_mem_tokens delimited member
  have behind :
      ((tokens rule.2 left).foldl (paint rule.1) leftRoles).length =
        left.length :=
    (length_paintRule left leftRoles rule).trans width
  rw [paintRule, tokens_append delimited border, List.foldl_append,
    foldl_paint_append_left _ _ _ inside, ← behind,
    foldl_paint_append_right]
  rfl

theorem foldl_paintRule_append
    {kinds : List (Role × Recogniser)}
    (delimited : ∀ rule ∈ kinds, rule.2.IsDelimited)
    {leftRoles : Roles}
    (width : leftRoles.length = left.length)
    (rightRoles : Roles) :
    kinds.foldl (paintRule (left ++ right)) (leftRoles ++ rightRoles) =
      kinds.foldl (paintRule left) leftRoles ++
        kinds.foldl (paintRule right) rightRoles := by
  induction kinds generalizing leftRoles rightRoles with
  | nil => rfl
  | cons rule kinds induction =>
      have same : (paintRule left leftRoles rule).length = left.length := by
        rw [length_paintRule, width]
      rw [List.foldl_cons,
        paintRule_append border (delimited rule List.mem_cons_self) width,
        induction
          (fun other member =>
            delimited other (List.mem_cons_of_mem rule member))
          same]
      rfl

/-- The roles of a line, literals aside, are those of its parts. -/
theorem tokenRoles_append
    (basic : Utf16.IsBasic (left ++ right)) :
    tokenRoles (left ++ right) = tokenRoles left ++ tokenRoles right := by
  have leftBasic : Utf16.IsBasic left := fun unit member =>
    basic unit (List.mem_append_left right member)
  have rightBasic : Utf16.IsBasic right := fun unit member =>
    basic unit (List.mem_append_right left member)
  simp only [tokenRoles, basic.isWellFormed, leftBasic.isWellFormed,
    rightBasic.isWellFormed, if_true, List.map_append]
  exact
    foldl_paintRule_append border (fun _ => isDelimited_of_mem_rules)
      (List.length_map _) _

end Rules

end ClauseEditor.Highlight
