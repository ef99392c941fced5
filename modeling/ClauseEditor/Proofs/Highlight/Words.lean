import ClauseEditor.Proofs.Highlight.Hiding

/-!
# Words of a line

A word is a longest run of letters, digits and underscores.  Every stretch that
the highlighter paints has edges at both ends, where no word goes on, so it
takes a word whole or not at all.

The search for tokens is leftmost: a token that is recognised somewhere is
found, unless an earlier one reaches over its start.
-/

namespace ClauseEditor.Highlight

open ClauseEditor.Scallop

/-! ## Edges -/

/-- No word goes on from one part of a line into the other. -/
def IsEdge (left right : List CodeUnit) : Prop :=
  left.getLast?.any isWord = false ∨ wordEnds right = true

/-- No word of the line goes on over a position. -/
def IsEdgeAt (units : List CodeUnit) (position : Nat) : Prop :=
  IsEdge (units.take position) (units.drop position)

theorem isEdgeAt_length {left right : List CodeUnit} :
    IsEdgeAt (left ++ right) left.length ↔ IsEdge left right := by
  rw [IsEdgeAt, List.take_left, List.drop_left]

theorem IsEdge.isEdgeAt
    {left right : List CodeUnit}
    {count : Nat}
    (edge : IsEdge (left ++ right.take count) (right.drop count)) :
    IsEdgeAt (left ++ right) (left.length + count) := by
  rwa [IsEdgeAt, List.take_length_add_append, List.drop_length_add_append]

/-- Delimiters belong to no word. -/
theorem IsBorderAt.isEdgeAt
    {units : List CodeUnit}
    {position : Nat}
    (border : IsBorderAt units position) :
    IsEdgeAt units position := by
  rcases border with behind | ahead
  · left
    cases last : (units.take position).getLast? with
    | none => rfl
    | some unit => exact excludes_isWord unit (behind unit last)
  · right
    rw [wordEnds]
    cases first : (units.drop position).head? with
    | none => rfl
    | some unit =>
        rw [Option.any_some, excludes_isWord unit (ahead unit first)]
        rfl

/-! ## Words -/

/-- A word with what stands in front of it and behind it in its line. -/
structure IsWordRun (front word behind : List CodeUnit) : Prop where
  ne_nil : word ≠ []
  members : ∀ unit ∈ word, isWord unit = true
  starts : front.getLast?.any isWord = false
  ends : wordEnds behind = true

instance (front word behind : List CodeUnit) :
    Decidable (IsWordRun front word behind) :=
  decidable_of_iff
    (word ≠ [] ∧ (∀ unit ∈ word, isWord unit = true) ∧
      front.getLast?.any isWord = false ∧ wordEnds behind = true)
    ⟨fun ⟨ne_nil, members, starts, ends⟩ => ⟨ne_nil, members, starts, ends⟩,
      fun ⟨ne_nil, members, starts, ends⟩ => ⟨ne_nil, members, starts, ends⟩⟩

namespace IsWordRun

variable
    {front word behind : List CodeUnit}
    (run : IsWordRun front word behind)

include run

theorem length_pos : 0 < word.length :=
  List.length_pos_iff.mpr run.ne_nil

theorem isEdge_start : IsEdge front (word ++ behind) :=
  .inl run.starts

theorem isEdge_stop : IsEdge (front ++ word) behind :=
  .inr run.ends

theorem isEdgeAt_start : IsEdgeAt (front ++ (word ++ behind)) front.length :=
  isEdgeAt_length.mpr run.isEdge_start

theorem isEdgeAt_stop :
    IsEdgeAt (front ++ (word ++ behind)) (front.length + word.length) := by
  rw [← List.append_assoc, ← List.length_append]
  exact isEdgeAt_length.mpr run.isEdge_stop

/-- A word has no edges inside. -/
theorem le_or_le_of_isEdgeAt
    {position : Nat}
    (edge : IsEdgeAt (front ++ (word ++ behind)) position) :
    position ≤ front.length ∨ front.length + word.length ≤ position := by
  by_contra inside
  rw [not_or, Nat.not_le, Nat.not_le] at inside
  obtain ⟨offset, rfl⟩ := Nat.exists_eq_add_of_lt inside.1
  have within : offset + 1 < word.length := by omega
  have before : (word.take (offset + 1)).getLast? = some word[offset] := by
    rw [List.take_add_one, List.getElem?_eq_getElem (by omega),
      Option.toList_some, List.getLast?_concat]
  have after : (word.drop (offset + 1)).head? = some word[offset + 1] := by
    rw [List.head?_drop, List.getElem?_eq_getElem within]
  rw [IsEdgeAt, Nat.add_assoc, List.take_length_add_append,
    List.drop_length_add_append, List.take_append_of_le_length (by omega),
    List.drop_append_of_le_length (by omega), IsEdge, List.getLast?_append,
    before, wordEnds, List.head?_append, after] at edge
  simp [run.members] at edge

/-- A stretch between edges takes a word whole or not at all. -/
theorem covers_iff_of_isEdgeAt
    {span : Span}
    (startEdge : IsEdgeAt (front ++ (word ++ behind)) span.start)
    (stopEdge :
      IsEdgeAt (front ++ (word ++ behind)) (span.start + span.length))
    {offset : Nat}
    (inside : offset < word.length) :
    span.covers (front.length + offset) = true ↔
      span.covers front.length = true := by
  have start := run.le_or_le_of_isEdgeAt startEdge
  have stop := run.le_or_le_of_isEdgeAt stopEdge
  rw [Span.covers_iff, Span.covers_iff]
  omega

/-- A word that stands where another starts is that other. -/
theorem eq_of_overlap
    {left other right : List CodeUnit}
    (otherRun : IsWordRun left other right)
    (same : left ++ (other ++ right) = front ++ (word ++ behind))
    (lower : left.length ≤ front.length)
    (upper : front.length < left.length + other.length) :
    left = front ∧ other = word ∧ right = behind := by
  have startEdge := otherRun.isEdgeAt_start
  have stopEdge := otherRun.isEdgeAt_stop
  rw [same] at startEdge stopEdge
  have wordStart := run.isEdgeAt_start
  have wordStop := run.isEdgeAt_stop
  rw [← same] at wordStart wordStop
  have start := run.le_or_le_of_isEdgeAt startEdge
  have stop := run.le_or_le_of_isEdgeAt stopEdge
  have backStart := otherRun.le_or_le_of_isEdgeAt wordStart
  have backStop := otherRun.le_or_le_of_isEdgeAt wordStop
  have positive := run.length_pos
  obtain ⟨rfl, rest⟩ := List.append_inj same (by omega)
  obtain ⟨rfl, rfl⟩ := List.append_inj rest (by omega)
  exact ⟨rfl, rfl, rfl⟩

end IsWordRun

/-! ## The search for tokens -/

/-- A token that is recognised between two parts of a line. -/
structure Recognises
    (recognise : Recogniser)
    (left right : List CodeUnit)
    (token : Token) :
    Prop where
  ne_nil : right ≠ []
  found : recognise left.getLast? right = some token

/-- Where a token stands that is recognised behind some units. -/
def Token.spanBehind (left : List CodeUnit) (token : Token) : Span :=
  ⟨left.length + token.offset, token.length⟩

theorem getLast?_cons_or
    {Item : Type}
    (item : Item)
    (items : List Item)
    (before : Option Item) :
    (item :: items).getLast?.or before = items.getLast?.or (some item) := by
  rw [List.getLast?_cons]
  cases items.getLast? <;> rfl

section Search

variable {recognise : Recogniser}

/-- What the search finds has been recognised. -/
theorem exists_recognised_of_mem_tokensFrom
    {units : List CodeUnit}
    {used position : Nat}
    {before : Option CodeUnit}
    {span : Span}
    (member : span ∈ tokensFrom recognise used before position units) :
    ∃ left right token,
      left ++ right = units ∧ right ≠ [] ∧
        recognise (left.getLast?.or before) right = some token ∧
        span = ⟨position + left.length + token.offset, token.length⟩ := by
  induction units generalizing used before position with
  | nil => cases member
  | cons unit units induction =>
      have further
          {used : Nat}
          (member :
            span ∈ tokensFrom recognise used (some unit) (position + 1)
              units) :
          ∃ left right token,
            left ++ right = unit :: units ∧ right ≠ [] ∧
              recognise (left.getLast?.or before) right = some token ∧
              span =
                ⟨position + left.length + token.offset, token.length⟩ := by
        rcases induction member with
          ⟨left, right, token, rfl, ne_nil, found, rfl⟩
        refine ⟨unit :: left, right, token, rfl, ne_nil, ?_, ?_⟩
        · rwa [getLast?_cons_or]
        · rw [List.length_cons, Nat.add_assoc position 1, Nat.add_comm 1]
      cases used with
      | succ used => exact further member
      | zero =>
          rw [tokensFrom] at member
          cases found : recognise before (unit :: units) with
          | none =>
              rw [found] at member
              exact further member
          | some token =>
              rw [found] at member
              rcases List.mem_cons.mp member with rfl | member
              · exact
                  ⟨[], unit :: units, token, rfl, List.cons_ne_nil _ _, found,
                    rfl⟩
              · exact further member

theorem exists_recognises_of_mem_tokens
    {units : List CodeUnit}
    {span : Span}
    (member : span ∈ tokens recognise units) :
    ∃ left right token,
      left ++ right = units ∧ Recognises recognise left right token ∧
        span = token.spanBehind left := by
  rcases exists_recognised_of_mem_tokensFrom member with
    ⟨left, right, token, whole, ne_nil, found, rfl⟩
  rw [Option.or_none] at found
  exact
    ⟨left, right, token, whole, ⟨ne_nil, found⟩,
      by rw [Token.spanBehind, Nat.zero_add]⟩

/-- A token that starts earlier is found and reaches over a part's start. -/
def IsOvertaken
    (recognise : Recogniser)
    (before : Option CodeUnit)
    (position : Nat)
    (spans : List Span)
    (left right : List CodeUnit) :
    Prop :=
  ∃ first rest token,
    first ++ rest = left ++ right ∧ rest ≠ [] ∧
      recognise (first.getLast?.or before) rest = some token ∧
      first.length < left.length ∧
      left.length < first.length + token.total ∧
      ⟨position + first.length + token.offset, token.length⟩ ∈ spans

theorem shift_start (position length offset : Nat) :
    position + (length + 1) + offset = position + 1 + length + offset := by
  omega

theorem IsOvertaken.cons
    {unit : CodeUnit}
    {before : Option CodeUnit}
    {position : Nat}
    {spans others : List Span}
    {left right : List CodeUnit}
    (overtaken :
      IsOvertaken recognise (some unit) (position + 1) spans left right)
    (kept : spans ⊆ others) :
    IsOvertaken recognise before position others (unit :: left) right := by
  rcases overtaken with
    ⟨first, rest, token, whole, ne_nil, found, lower, upper, member⟩
  refine ⟨unit :: first, rest, token, ?_, ne_nil, ?_, ?_, ?_, ?_⟩
  · rw [List.cons_append, whole, List.cons_append]
  · rwa [getLast?_cons_or]
  · exact Nat.succ_lt_succ lower
  · rw [List.length_cons, List.length_cons]
    omega
  · rw [List.length_cons, shift_start]
    exact kept member

/--
A token that can be recognised is found, unless units of an earlier one are
still used up at its start.
-/
theorem mem_tokensFrom_or
    {left right : List CodeUnit}
    {token : Token}
    {used position : Nat}
    {before : Option CodeUnit}
    (ne_nil : right ≠ [])
    (found : recognise (left.getLast?.or before) right = some token) :
    ⟨position + left.length + token.offset, token.length⟩ ∈
        tokensFrom recognise used before position (left ++ right) ∨
      left.length < used ∨
      IsOvertaken recognise before position
        (tokensFrom recognise used before position (left ++ right)) left
        right := by
  induction left generalizing used before position with
  | nil =>
      cases right with
      | nil => exact absurd rfl ne_nil
      | cons unit right =>
          cases used with
          | succ used => exact .inr (.inl (Nat.succ_pos used))
          | zero =>
              have here : recognise before (unit :: right) = some token := found
              left
              rw [List.nil_append, tokensFrom, here]
              exact List.mem_cons_self
  | cons unit left induction =>
      rw [getLast?_cons_or] at found
      have further (used : Nat) :=
        @induction used (position + 1) (some unit) found
      rw [List.length_cons, shift_start, List.cons_append]
      cases used with
      | succ used =>
          rcases further used with member | inside | overtaken
          · exact .inl member
          · exact .inr (.inl (Nat.succ_lt_succ inside))
          · exact .inr (.inr (overtaken.cons (List.Subset.refl _)))
      | zero =>
          rw [tokensFrom]
          cases here : recognise before (unit :: (left ++ right)) with
          | none =>
              rcases further 0 with member | inside | overtaken
              · exact .inl member
              · exact absurd inside (Nat.not_lt_zero _)
              · exact .inr (.inr (overtaken.cons (List.Subset.refl _)))
          | some earlier =>
              rcases further (earlier.total - 1) with
                member | inside | overtaken
              · exact .inl (List.mem_cons_of_mem _ member)
              · -- The token that starts with the first unit reaches so far.
                refine .inr (.inr
                  ⟨[], unit :: (left ++ right), earlier, rfl,
                    List.cons_ne_nil _ _, here, Nat.succ_pos _, ?_,
                    List.mem_cons_self⟩)
                rw [List.length_nil, List.length_cons]
                omega
              · exact .inr (.inr (overtaken.cons (List.subset_cons_self _ _)))

/-- The search is leftmost. -/
theorem Recognises.mem_tokens_or
    {left right : List CodeUnit}
    {token : Token}
    (recognises : Recognises recognise left right token) :
    token.spanBehind left ∈ tokens recognise (left ++ right) ∨
      ∃ first rest earlier,
        first ++ rest = left ++ right ∧
          Recognises recognise first rest earlier ∧
          first.length < left.length ∧
          left.length < first.length + earlier.total ∧
          earlier.spanBehind first ∈ tokens recognise (left ++ right) := by
  have found := recognises.found
  rw [← @Option.or_none _ left.getLast?] at found
  have searched :=
    @mem_tokensFrom_or recognise left right token 0 0 none recognises.ne_nil
      found
  simp only [IsOvertaken, Nat.zero_add, Option.or_none] at searched
  rcases searched with
    member | inside | ⟨first, rest, earlier, whole, ne_nil, known, lower, upper,
      member⟩
  · exact .inl member
  · exact absurd inside (Nat.not_lt_zero _)
  · exact .inr
      ⟨first, rest, earlier, whole, ⟨ne_nil, known⟩, lower, upper, member⟩

end Search

/-! ## Tokens keep words whole -/

/-- A recogniser whose tokens start and end at edges. -/
def Recogniser.KeepsWords (recognise : Recogniser) : Prop :=
  ∀ {left right : List CodeUnit} {token : Token},
    Recognises recognise left right token →
      IsEdge (left ++ right.take token.offset) (right.drop token.offset) ∧
        IsEdge (left ++ right.take (token.offset + token.length))
          (right.drop (token.offset + token.length))

theorem Recogniser.KeepsWords.isEdgeAt
    {recognise : Recogniser}
    (keeps : recognise.KeepsWords)
    {units : List CodeUnit}
    {span : Span}
    (member : span ∈ tokens recognise units) :
    IsEdgeAt units span.start ∧ IsEdgeAt units (span.start + span.length) := by
  rcases exists_recognises_of_mem_tokens member with
    ⟨left, right, token, rfl, recognises, rfl⟩
  rcases keeps recognises with ⟨start, stop⟩
  refine ⟨start.isEdgeAt, ?_⟩
  rw [Token.spanBehind, Nat.add_assoc]
  exact stop.isEdgeAt

end ClauseEditor.Highlight
