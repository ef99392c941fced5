import ClauseEditor.Proofs.Json.Members
import ClauseEditor.Proofs.Json.Numeral
import ClauseEditor.Proofs.Json.Quotation

/-!
# Values are read back

A value that has a text of its own is read back from this text, in either
layout and whatever stands behind it.  The values that qualify have strings
without split pairs, keys that differ, and numbers in canonical form.
-/

namespace ClauseEditor.Json

open Binary64

/-- A value that its text determines. -/
inductive WellFormed : Json → Prop where
  | null : WellFormed .null
  | bool (value : Bool) : WellFormed (.bool value)
  | integer (value : Int) : WellFormed (.integer value)
  | number
      {value : Binary64}
      (canonical : IsCanonical value) :
      WellFormed (.number value)
  | string
      {value : Text}
      (unpaired : Unpaired value) :
      WellFormed (.string value)
  | array
      {items : List Json}
      (each : ∀ item ∈ items, WellFormed item) :
      WellFormed (.array items)
  | object
      {members : Members}
      (distinct : members.keys.Nodup)
      (unpaired : ∀ member ∈ members, Unpaired member.1)
      (each : ∀ member ∈ members, WellFormed member.2) :
      WellFormed (.object members)

/-! ## Between the parts -/

section Parts

variable {text rest : Text} {fuel : Nat} {c : CodePoint}

theorem isSeparator_newLine
    {layout : Layout}
    (inside : c ∈ layout.newLine) :
    isSeparator c = true := by
  cases layout with
  | oneLine => cases inside
  | indented width depth =>
      rcases List.mem_append.mp inside with first | space
      · rw [List.mem_singleton.mp first]
        rfl
      · rw [List.eq_of_mem_replicate space]
        rfl

theorem skipSeparators_newLine
    (layout : Layout)
    (text : Text) :
    skipSeparators (layout.newLine ++ text) = skipSeparators text :=
  List.dropWhile_append_of_pos fun _ inside => isSeparator_newLine inside

/-- A separator or a closing bracket does not belong to a numeral. -/
theorem ends_newLine
    (layout : Layout)
    (ends : Ends rest) :
    Ends (layout.newLine ++ rest) := by
  cases layout with
  | oneLine => exact ends
  | indented width depth =>
      rintro c ⟨⟩
      decide

/-- A value can start with the first character of a text. -/
def Begins (text : Text) : Prop :=
  ∃ c rest, text = c :: rest ∧ isSeparator c = false ∧ c ≠ ']'

theorem Begins.skipSeparators
    (begins : Begins text) :
    skipSeparators text = text := by
  rcases begins with ⟨c, rest, rfl, plain, _⟩
  exact List.dropWhile_cons_of_neg (ne_true_of_eq_false plain)

/-- A text that is read as a value starts with one. -/
theorem begins_of_readValue?
    {read : Json × Text}
    (found : readValue? fuel text = some read) :
    Begins text := by
  match fuel, text, found with
  | fuel + 1, c :: rest, found =>
      have unread (other : Char)
          (unknown :
            readValue? (fuel + 1) (CodePoint.ofChar other :: rest) = none) :
          c ≠ CodePoint.ofChar other := by
        rintro rfl
        rw [unknown] at found
        cases found
      refine ⟨c, rest, rfl, ?_, unread ']' rfl⟩
      simp only [isSeparator, Bool.or_eq_false_iff, decide_eq_false_iff_not]
      exact ⟨⟨⟨unread ' ' rfl, unread '\t' rfl⟩, unread '\n' rfl⟩,
        unread '\r' rfl⟩

end Parts

/-! ## Values without parts -/

/-- A value is read back from its text, whatever stands behind it. -/
def ReadsBack (value : Json) : Prop :=
  ∀ (layout : Layout) (fuel : Nat) (rest : Text),
    Ends rest →
    2 * (value.render layout).length < fuel →
      readValue? fuel (value.render layout ++ rest) = some (value, rest)

section Simple

variable {text rest : Text} {fuel : Nat} {read : Json × Text}

/-- A text that is read as a numeral starts with a digit. -/
theorem exists_isDigit_of_readUnsigned?
    {negative : Bool}
    (found : readUnsigned? negative text = some read) :
    ∃ c rest, text = c :: rest ∧ isDigit c = true := by
  match text, found with
  | [], found => cases found
  | c :: rest, found =>
      refine ⟨c, rest, rfl, ?_⟩
      rcases Option.bind_eq_some_iff.mp found with ⟨_, whole, _⟩
      rw [readWhole?] at whole
      split at whole
      · rename_i zero
        rw [zero]
        rfl
      · split at whole
        · assumption
        · cases whole

theorem readValue?_of_readUnsigned?
    (found : readUnsigned? false text = some read) :
    readValue? (fuel + 1) text = some read := by
  rcases exists_isDigit_of_readUnsigned? found with ⟨c, rest, rfl, digit⟩
  have different (other : Char) (plain : isDigit other = false) :
      c ≠ CodePoint.ofChar other := by
    rintro rfl
    rw [plain] at digit
    cases digit
  have brace : c.val ≠ 0x7B := by
    rw [isDigit, Bool.and_eq_true, decide_eq_true_eq, decide_eq_true_eq]
      at digit
    omega
  rw [readValue?, if_neg (different '"' rfl), if_neg (different '[' rfl),
    if_neg brace, if_neg (different 'n' rfl), if_neg (different 't' rfl),
    if_neg (different 'f' rfl), if_neg (different 'N' rfl),
    if_neg (different 'I' rfl), if_neg (different '-' rfl), found]

theorem readValue?_minus
    (found : readUnsigned? true text = some read) :
    readValue? (fuel + 1) (Text.ofString "-" ++ text) = some read := by
  rcases exists_isDigit_of_readUnsigned? found with ⟨c, rest, rfl, digit⟩
  have noInfinity : after? "Infinity" (c :: rest) = none := by
    cases starts : after? "Infinity" (c :: rest) with
    | none => rfl
    | some behind =>
        have first : some c = some (CodePoint.ofChar 'I') :=
          congrArg List.head? (eq_of_after? starts)
        cases first
        cases digit
  have other (letter : Char) (different : '-' ≠ letter) :
      CodePoint.ofChar '-' ≠ CodePoint.ofChar letter :=
    fun same => different (CodePoint.ofChar_inj.mp same)
  have brace : (CodePoint.ofChar '-').val ≠ 0x7B := by decide
  have shape :
      Text.ofString "-" ++ c :: rest = CodePoint.ofChar '-' :: c :: rest := rfl
  rw [shape, readValue?, if_neg (other '"' (by decide)),
    if_neg (other '[' (by decide)), if_neg brace,
    if_neg (other 'n' (by decide)), if_neg (other 't' (by decide)),
    if_neg (other 'f' (by decide)), if_neg (other 'N' (by decide)),
    if_neg (other 'I' (by decide)), if_pos rfl, noInfinity, found]

theorem readsBack_integer (value : Int) : ReadsBack (.integer value) := by
  intro layout fuel rest ends enough
  rcases Nat.exists_eq_succ_of_ne_zero (Nat.ne_of_gt (Nat.zero_lt_of_lt enough))
    with ⟨fewer, rfl⟩
  rw [render, Text.ofInt]
  by_cases negative : value < 0
  · have read := readUnsigned?_ofNat value.natAbs ends true
    rw [decide_eq_true negative, Text.minusIf, if_pos rfl, List.append_assoc,
      readValue?_minus read, if_pos rfl]
    congr 3
    omega
  · have read := readUnsigned?_ofNat value.natAbs ends false
    rw [decide_eq_false negative, Text.minusIf, if_neg Bool.false_ne_true,
      List.nil_append, readValue?_of_readUnsigned? read,
      if_neg Bool.false_ne_true]
    congr 3
    omega

theorem readsBack_number
    {value : Binary64}
    (canonical : IsCanonical value) :
    ReadsBack (.number value) := by
  intro layout fuel rest ends enough
  rcases Nat.exists_eq_succ_of_ne_zero (Nat.ne_of_gt (Nat.zero_lt_of_lt enough))
    with ⟨fewer, rfl⟩
  rw [render]
  cases value with
  | nan => rfl
  | infinite negative =>
      cases negative with
      | false => rfl
      | true => rfl
  | finite negative mantissa exponent =>
      have read :
          readUnsigned? negative
              ((if mantissa = 0 then Text.ofString "0.0"
                else (shortest mantissa exponent).render) ++ rest) =
            some (.number (.finite negative mantissa exponent), rest) := by
        by_cases zero : mantissa = 0
        · subst zero
          have least : exponent = leastExponent :=
            canonical.full.resolve_right (by decide)
          rw [if_pos rfl, least]
          exact readUnsigned?_zero ends negative
        · rw [if_neg zero]
          exact readUnsigned?_shortest canonical (Nat.pos_of_ne_zero zero) ends
            negative
      rw [Binary64.render]
      cases negative with
      | false => exact readValue?_of_readUnsigned? read
      | true =>
          rw [Text.minusIf, if_pos rfl, List.append_assoc]
          exact readValue?_minus read

/-- A string after its opening quote, with what stands behind it. -/
theorem quote_append (text rest : Text) :
    quote text ++ rest =
      CodePoint.ofChar '"' ::
        (text.flatMap escape ++ (Text.ofString "\"" ++ rest)) := by
  rw [quote, List.append_assoc, List.append_assoc]
  rfl

theorem length_lt_length_quote (text : Text) :
    text.length + 1 < (quote text).length := by
  have inside : text.length ≤ (text.flatMap escape).length := by
    induction text with
    | nil => exact Nat.le_refl _
    | cons c text induction =>
        have some : 0 < (escape c).length := by
          rcases escape_cases c with ⟨written, _⟩ | ⟨tail, written, _⟩
          · rw [written]
            exact Nat.one_pos
          · rw [written]
            exact Nat.succ_pos _
        rw [List.flatMap_cons, List.length_append, List.length_cons]
        omega
  have quotes : (Text.ofString "\"").length = 1 := rfl
  rw [quote, List.length_append, List.length_append, quotes]
  omega

theorem readsBack_string
    (unpaired : Unpaired text) :
    ReadsBack (.string text) := by
  intro layout fuel rest ends enough
  have length := length_lt_length_quote text
  rw [render] at enough ⊢
  rcases Nat.exists_eq_succ_of_ne_zero (Nat.ne_of_gt (Nat.zero_lt_of_lt enough))
    with ⟨fewer, rfl⟩
  have read :=
    readString?_append unpaired (by omega : text.length < fewer) rest
  rw [quote_append, readValue?, if_pos rfl, read]
  rfl

end Simple

/-! ## Arrays and objects -/

section Parts

variable
    {layout outer : Layout}
    {item value : Json}
    {items : List Json}
    {key : Text}
    {members : Members}
    {text rest : Text}
    {fuel : Nat}

theorem Begins.append
    (begins : Begins text)
    (rest : Text) :
    Begins (text ++ rest) := by
  rcases begins with ⟨c, more, rfl, plain⟩
  exact ⟨c, more ++ rest, rfl, plain⟩

theorem ReadsBack.begins
    (back : ReadsBack value)
    (layout : Layout) :
    Begins (value.render layout) := by
  have nothing : Ends [] := nofun
  have read := back layout _ [] nothing (Nat.lt_succ_self _)
  rw [List.append_nil] at read
  exact begins_of_readValue? read

theorem skipSeparators_close
    {c : CodePoint}
    (plain : isSeparator c = false)
    (outer : Layout)
    (rest : Text) :
    skipSeparators (outer.newLine ++ c :: rest) = c :: rest := by
  rw [skipSeparators_newLine]
  exact List.dropWhile_cons_of_neg (ne_true_of_eq_false plain)

theorem readItems?_last
    (read :
      readValue? fuel text =
        some (item, outer.newLine ++ CodePoint.ofChar ']' :: rest)) :
    readItems? (fuel + 1) text = some ([item], rest) := by
  rw [readItems?, read, Option.bind_eq_bind, Option.bind_some]
  dsimp only
  rw [skipSeparators_close rfl]
  rfl

theorem readItems?_next
    {after : Text}
    (read :
      readValue? fuel text =
        some (item, CodePoint.ofChar ',' :: (layout.newLine ++ after)))
    (begins : Begins after)
    (others : readItems? fuel after = some (items, rest)) :
    readItems? (fuel + 1) text = some (item :: items, rest) := by
  have comma :
      skipSeparators (CodePoint.ofChar ',' :: (layout.newLine ++ after)) =
        CodePoint.ofChar ',' :: (layout.newLine ++ after) := rfl
  have noBracket : CodePoint.ofChar ',' ≠ ']' := by decide
  rw [readItems?, read, Option.bind_eq_bind, Option.bind_some]
  dsimp only
  rw [comma]
  dsimp only
  rw [if_neg noBracket, if_pos rfl, skipSeparators_newLine,
    begins.skipSeparators, others]
  rfl

/-- The items of an array are read back. -/
theorem readItems?_append
    (each : ∀ value ∈ item :: items, ReadsBack value)
    (enough :
      2 * (item.render layout ++ renderItems layout items).length + 1 < fuel) :
    readItems? fuel
        (item.render layout ++ (renderItems layout items ++
          (outer.newLine ++ CodePoint.ofChar ']' :: rest))) =
      some (item :: items, rest) := by
  induction items generalizing item fuel with
  | nil =>
      rcases Nat.exists_eq_succ_of_ne_zero (Nat.ne_of_gt (Nat.zero_lt_of_lt enough))
        with ⟨fewer, rfl⟩
      have ends : Ends (outer.newLine ++ CodePoint.ofChar ']' :: rest) := by
        apply ends_newLine
        rintro c ⟨⟩
        decide
      rw [renderItems, List.append_nil] at enough
      rw [renderItems, List.nil_append]
      exact readItems?_last
        (each item List.mem_cons_self layout fewer _ ends (by omega))
  | cons next more induction =>
      rcases Nat.exists_eq_succ_of_ne_zero (Nat.ne_of_gt (Nat.zero_lt_of_lt enough))
        with ⟨fewer, rfl⟩
      have shape (rest : Text) :
          renderItems layout (next :: more) ++ rest =
            CodePoint.ofChar ',' :: (layout.newLine ++
              (next.render layout ++ (renderItems layout more ++ rest))) := by
        rw [renderItems]
        simp only [List.append_assoc]
        rfl
      have length := congrArg List.length (shape [])
      simp only [List.length_append, List.length_cons, List.length_nil]
        at length enough
      have ends (text : Text) : Ends (CodePoint.ofChar ',' :: text) := by
        rintro c ⟨⟩
        decide
      rw [shape]
      apply readItems?_next
        (each item List.mem_cons_self layout fewer _ (ends _) (by omega))
      · exact ((each next (List.mem_cons_of_mem _ List.mem_cons_self)).begins
          layout).append _
      · apply induction fun value inside =>
          each value (List.mem_cons_of_mem _ inside)
        rw [List.length_append]
        omega

theorem readsBack_array
    (each : ∀ item ∈ items, ReadsBack item) :
    ReadsBack (.array items) := by
  intro layout fuel rest ends enough
  rcases Nat.exists_eq_succ_of_ne_zero (Nat.ne_of_gt (Nat.zero_lt_of_lt enough))
    with ⟨fewer, rfl⟩
  cases items with
  | nil =>
      rw [render]
      rfl
  | cons item items =>
      have shape (rest : Text) :
          render layout (.array (item :: items)) ++ rest =
            CodePoint.ofChar '[' :: (layout.deeper.newLine ++
              (item.render layout.deeper ++ (renderItems layout.deeper items ++
                (layout.newLine ++ CodePoint.ofChar ']' :: rest)))) := by
        rw [render]
        simp only [List.append_assoc]
        rfl
      have length := congrArg List.length (shape [])
      simp only [List.length_append, List.length_cons, List.length_nil]
        at length
      have begins :=
        ((each item List.mem_cons_self).begins layout.deeper).append
          (renderItems layout.deeper items ++
            (layout.newLine ++ CodePoint.ofChar ']' :: rest))
      have read :
          readItems? fewer
              (item.render layout.deeper ++ (renderItems layout.deeper items ++
                (layout.newLine ++ CodePoint.ofChar ']' :: rest))) =
            some (item :: items, rest) := by
        apply readItems?_append each
        rw [List.length_append]
        omega
      rw [shape]
      generalize item.render layout.deeper ++ (renderItems layout.deeper items ++
        (layout.newLine ++ CodePoint.ofChar ']' :: rest)) = text at begins read ⊢
      have skipped := begins.skipSeparators
      rcases begins with ⟨c, more, rfl, _, noBracket⟩
      have noQuote : CodePoint.ofChar '[' ≠ '"' := by decide
      rw [readValue?, if_neg noQuote, if_pos rfl, skipSeparators_newLine,
        skipped]
      dsimp only
      rw [if_neg noBracket, read]
      rfl

/-! ### Members -/

/-- A member is read up to its value; what is next decides how it goes on. -/
theorem readMembers?_cons
    {next : CodePoint}
    {after : Text}
    (unpaired : Unpaired key)
    (enough : key.length < fuel)
    (begins : Begins text)
    (read : readValue? fuel text = some (value, rest))
    (behind : skipSeparators rest = next :: after) :
    readMembers? (fuel + 1) (quote key ++ (Text.ofString ": " ++ text)) =
      if next.val = 0x7D then some ([(key, value)], after)
      else if next = ',' then
        (readMembers? fuel (skipSeparators after)).map fun read =>
          ((key, value) :: read.1, read.2)
      else none := by
  have colon :
      after? ":" (skipSeparators (Text.ofString ": " ++ text)) =
        some (CodePoint.ofChar ' ' :: text) :=
    after?_append ":" (CodePoint.ofChar ' ' :: text)
  have space : skipSeparators (CodePoint.ofChar ' ' :: text) = text :=
    begins.skipSeparators
  rw [quote_append, readMembers?, if_pos rfl,
    readString?_append unpaired enough]
  simp only [Option.bind_eq_bind, Option.bind_some, colon, space, read, behind]
  cases readMembers? fuel (skipSeparators after) <;> rfl

/-- The closing brace of an object. -/
def brace : CodePoint := ⟨0x7D, by decide⟩

/-- The members of an object are read back. -/
theorem readMembers?_append
    (unpaired : ∀ member ∈ (key, value) :: members, Unpaired member.1)
    (each : ∀ member ∈ (key, value) :: members, ReadsBack member.2)
    (enough :
      2 * ((quote key).length + (value.render layout).length +
        (renderMembers layout members).length) + 1 < fuel) :
    readMembers? fuel
        (quote key ++ (Text.ofString ": " ++ (value.render layout ++
          (renderMembers layout members ++
            (outer.newLine ++ brace :: rest))))) =
      some ((key, value) :: members, rest) := by
  induction members generalizing key value fuel with
  | nil =>
      rcases Nat.exists_eq_succ_of_ne_zero (Nat.ne_of_gt (Nat.zero_lt_of_lt enough))
        with ⟨fewer, rfl⟩
      have keyLength := length_lt_length_quote key
      have ends : Ends (outer.newLine ++ brace :: rest) := by
        apply ends_newLine
        rintro c ⟨⟩
        decide
      have own : Unpaired key := unpaired _ List.mem_cons_self
      have back : ReadsBack value := each _ List.mem_cons_self
      rw [renderMembers, List.nil_append]
      rw [readMembers?_cons own (by omega)
        ((back.begins layout).append _)
        (back layout fewer _ ends (by omega))
        (skipSeparators_close rfl outer rest)]
      rfl
  | cons member more induction =>
      rcases member with ⟨nextKey, nextValue⟩
      rcases Nat.exists_eq_succ_of_ne_zero (Nat.ne_of_gt (Nat.zero_lt_of_lt enough))
        with ⟨fewer, rfl⟩
      have keyLength := length_lt_length_quote key
      have shape (rest : Text) :
          renderMembers layout ((nextKey, nextValue) :: more) ++ rest =
            CodePoint.ofChar ',' :: (layout.newLine ++
              (quote nextKey ++ (Text.ofString ": " ++
                (nextValue.render layout ++
                  (renderMembers layout more ++ rest))))) := by
        rw [renderMembers]
        simp only [List.append_assoc]
        rfl
      have length := congrArg List.length (shape [])
      simp only [List.length_append, List.length_cons, List.length_nil]
        at length
      have ends (text : Text) : Ends (CodePoint.ofChar ',' :: text) := by
        rintro c ⟨⟩
        decide
      have comma (text : Text) :
          skipSeparators (CodePoint.ofChar ',' :: text) =
            CodePoint.ofChar ',' :: text := rfl
      have noBrace : (CodePoint.ofChar ',').val ≠ 0x7D := by decide
      have own : Unpaired key := unpaired _ List.mem_cons_self
      have back : ReadsBack value := each _ List.mem_cons_self
      have others :=
        induction
          (fun member inside => unpaired member (List.mem_cons_of_mem _ inside))
          (fun member inside => each member (List.mem_cons_of_mem _ inside))
          (by omega : _ < fewer)
      rw [shape, readMembers?_cons own (by omega)
        ((back.begins layout).append _)
        (back layout fewer _ (ends _) (by omega)) (comma _), if_neg noBrace,
        if_pos rfl, skipSeparators_newLine, quote_append]
      rw [quote_append] at others
      change (readMembers? fewer (CodePoint.ofChar '"' :: _)).map _ = _
      rw [others]
      rfl

theorem readsBack_object
    (distinct : members.keys.Nodup)
    (unpaired : ∀ member ∈ members, Unpaired member.1)
    (each : ∀ member ∈ members, ReadsBack member.2) :
    ReadsBack (.object members) := by
  intro layout fuel rest ends enough
  rcases Nat.exists_eq_succ_of_ne_zero (Nat.ne_of_gt (Nat.zero_lt_of_lt enough))
    with ⟨fewer, rfl⟩
  cases members with
  | nil =>
      rw [render]
      rfl
  | cons member members =>
      rcases member with ⟨key, value⟩
      have shape (rest : Text) :
          render layout (.object ((key, value) :: members)) ++ rest =
            ⟨0x7B, by decide⟩ :: (layout.deeper.newLine ++
              (quote key ++ (Text.ofString ": " ++
                (value.render layout.deeper ++
                  (renderMembers layout.deeper members ++
                    (layout.newLine ++ brace :: rest)))))) := by
        rw [render]
        simp only [List.append_assoc]
        rfl
      have length := congrArg List.length (shape [])
      simp only [List.length_append, List.length_cons, List.length_nil]
        at length
      have read :
          readMembers? fewer
              (quote key ++ (Text.ofString ": " ++
                (value.render layout.deeper ++
                  (renderMembers layout.deeper members ++
                    (layout.newLine ++ brace :: rest))))) =
            some ((key, value) :: members, rest) := by
        apply readMembers?_append unpaired each
        omega
      have opening (text : Text) :
          skipSeparators (CodePoint.ofChar '"' :: text) =
            CodePoint.ofChar '"' :: text := rfl
      have noQuote : (⟨0x7B, by decide⟩ : CodePoint) ≠ '"' := by decide
      have noBracket : (⟨0x7B, by decide⟩ : CodePoint) ≠ '[' := by decide
      have noBrace : (CodePoint.ofChar '"').val ≠ 0x7D := by decide
      rw [shape]
      rw [quote_append] at read ⊢
      rw [readValue?, if_neg noQuote, if_neg noBracket, if_pos rfl,
        skipSeparators_newLine, opening]
      dsimp only
      rw [if_neg noBrace, read]
      simp only [Option.bind_eq_bind, Option.bind_some,
        Members.ofList_of_nodup distinct]

end Parts

/-- Every value that its text determines is read back. -/
theorem WellFormed.readsBack
    {value : Json}
    (wellFormed : WellFormed value) :
    ReadsBack value := by
  induction wellFormed with
  | null =>
      rintro layout (_ | fewer) rest ends enough
      · cases enough
      · rfl
  | bool value =>
      rintro layout (_ | fewer) rest ends enough
      · cases enough
      · cases value with
        | true => rfl
        | false => rfl
  | integer value => exact readsBack_integer value
  | number canonical => exact readsBack_number canonical
  | string unpaired => exact readsBack_string unpaired
  | array _ induction => exact readsBack_array induction
  | object distinct unpaired _ induction =>
      exact readsBack_object distinct unpaired induction

/-- The text of a value denotes the value. -/
theorem read?_render
    {value : Json}
    (wellFormed : WellFormed value)
    (layout : Layout) :
    read? (value.render layout) = some value := by
  have back := wellFormed.readsBack
  have nothing : Ends [] := nofun
  have enough :
      2 * (value.render layout).length < 2 * (value.render layout).length + 2 :=
    Nat.lt_add_of_pos_right Nat.two_pos
  have read := back layout _ [] nothing enough
  rw [List.append_nil] at read
  rw [read?, (back.begins layout).skipSeparators, read]
  rfl

end ClauseEditor.Json
