import ClauseEditor.Proofs.Json.RoundTrip

/-!
# Values that are read

Every reader leaves an end of the text that it was given, so a text without
surrogates stays one.  Hence what is read from such a text is a value that its
own text determines, and can be written and read again.
-/

namespace ClauseEditor.Json

open Binary64

variable {text rest : Text} {fuel : Nat} {value : Json}

/-! ## What the readers leave -/

theorem skipSeparators_suffix (text : Text) : skipSeparators text <:+ text :=
  List.dropWhile_suffix _

theorem after?_suffix
    {word : String}
    (found : after? word text = some rest) :
    rest <:+ text :=
  eq_of_after? found ▸ List.suffix_append _ _

theorem readWhole?_suffix
    {whole : Text}
    (read : readWhole? text = some (whole, rest)) :
    rest <:+ text := by
  match text, read with
  | c :: behind, read =>
      rw [readWhole?] at read
      split at read
      · cases read
        exact List.suffix_cons _ _
      · split at read
        · cases read
          exact List.dropWhile_suffix _
        · cases read

theorem readFraction_suffix (text : Text) : (readFraction text).2 <:+ text := by
  match text with
  | [] => exact List.suffix_rfl
  | point :: behind =>
      rw [readFraction]
      split
      · exact (List.dropWhile_suffix _).trans (List.suffix_cons _ _)
      · exact List.suffix_rfl

/-- The digits of an exponent stand at the end of what is behind its letter. -/
theorem readExponent_suffix (text : Text) : (readExponent text).2 <:+ text := by
  match text with
  | [] => exact List.suffix_rfl
  | letter :: behind =>
      have digits (negative : Bool) (after : Text)
          (suffix : after <:+ letter :: behind) :
          (if after.takeWhile isDigit = [] then (none, letter :: behind)
          else
            let size : Int := digitsValue (after.takeWhile isDigit)
            (some (if negative then -size else size),
              after.dropWhile isDigit)).2 <:+ letter :: behind := by
        split
        · exact List.suffix_rfl
        · exact (List.dropWhile_suffix _).trans suffix
      have own : behind <:+ letter :: behind := List.suffix_cons _ _
      rw [readExponent.eq_def]
      dsimp only
      split
      · cases behind with
        | nil => exact digits false [] own
        | cons sign after =>
            have signed : after <:+ letter :: sign :: after :=
              (List.suffix_cons _ _).trans own
            dsimp only
            split
            · exact digits true after signed
            · split
              · exact digits false after signed
              · exact digits false _ own
      · exact List.suffix_rfl

theorem wellFormed_of_word
    {word : String}
    {meant : Json}
    (wellFormed : WellFormed meant)
    (read :
      (after? word text).map (fun rest => (meant, rest)) = some (value, rest)) :
    WellFormed value ∧ rest <:+ text := by
  rcases Option.map_eq_some_iff.mp read with ⟨after, starts, same⟩
  cases same
  exact ⟨wellFormed, after?_suffix starts⟩

/-- A numeral denotes an integer or a number in canonical form. -/
theorem wellFormed_of_readUnsigned?
    {negative : Bool}
    (read : readUnsigned? negative text = some (value, rest)) :
    WellFormed value ∧ rest <:+ text := by
  rcases Option.bind_eq_some_iff.mp read with ⟨⟨whole, behind⟩, found, read⟩
  have suffix :=
    ((readExponent_suffix (readFraction behind).2).trans
      (readFraction_suffix behind)).trans (readWhole?_suffix found)
  dsimp only at read
  split at read
  · cases read
    exact ⟨.integer _, suffix⟩
  · cases read
    exact ⟨.number (isCanonical_ofDecimal _ _ _), suffix⟩

/-- A value that is neither quoted nor nested is a word or a numeral. -/
theorem wellFormed_of_plain
    {c : CodePoint}
    (noQuote : c ≠ '"')
    (noBracket : c ≠ '[')
    (noBrace : c.val ≠ 0x7B)
    (read : readValue? (fuel + 1) (c :: text) = some (value, rest)) :
    WellFormed value ∧ rest <:+ c :: text := by
  have within :
      WellFormed value ∧ rest <:+ text →
        WellFormed value ∧ rest <:+ c :: text :=
    And.imp_right fun ends => ends.trans (List.suffix_cons c text)
  rw [readValue?, if_neg noQuote, if_neg noBracket, if_neg noBrace] at read
  by_cases isNull : c = 'n'
  · rw [if_pos isNull] at read
    exact within (wellFormed_of_word .null read)
  rw [if_neg isNull] at read
  by_cases isTrue : c = 't'
  · rw [if_pos isTrue] at read
    exact within (wellFormed_of_word (.bool _) read)
  rw [if_neg isTrue] at read
  by_cases isFalse : c = 'f'
  · rw [if_pos isFalse] at read
    exact within (wellFormed_of_word (.bool _) read)
  rw [if_neg isFalse] at read
  by_cases isNan : c = 'N'
  · rw [if_pos isNan] at read
    have canonical : IsCanonical .nan := trivial
    exact within (wellFormed_of_word (.number canonical) read)
  rw [if_neg isNan] at read
  by_cases isInfinity : c = 'I'
  · rw [if_pos isInfinity] at read
    have canonical : IsCanonical (.infinite false) := trivial
    exact within (wellFormed_of_word (.number canonical) read)
  rw [if_neg isInfinity] at read
  by_cases isMinus : c = '-'
  · rw [if_pos isMinus] at read
    split at read
    · rename_i after starts
      cases read
      exact within ⟨.number trivial, after?_suffix starts⟩
    · exact within (wellFormed_of_readUnsigned? read)
  · rw [if_neg isMinus] at read
    exact wellFormed_of_readUnsigned? read

/-! ## What is read -/

/--
What the readers make of a text without surrogates with some amount of fuel:
values that their texts determine, and an end of the text.
-/
structure ReadsDetermined (fuel : Nat) : Prop where
  value
    {text rest : Text}
    {value : Json}
    (scalar : Utf8.IsScalar text)
    (read : readValue? fuel text = some (value, rest)) :
    WellFormed value ∧ rest <:+ text
  items
    {text rest : Text}
    {items : List Json}
    (scalar : Utf8.IsScalar text)
    (read : readItems? fuel text = some (items, rest)) :
    (∀ item ∈ items, WellFormed item) ∧ rest <:+ text
  members
    {text rest : Text}
    {members : Members}
    (scalar : Utf8.IsScalar text)
    (read : readMembers? fuel text = some (members, rest)) :
    (∀ member ∈ members, Unpaired member.1 ∧ WellFormed member.2) ∧
      rest <:+ text

namespace ReadsDetermined

variable (determined : ReadsDetermined fuel) (scalar : Utf8.IsScalar text)

include determined scalar

theorem items_succ
    {items : List Json}
    (read : readItems? (fuel + 1) text = some (items, rest)) :
    (∀ item ∈ items, WellFormed item) ∧ rest <:+ text := by
  rcases Option.bind_eq_some_iff.mp read with ⟨⟨item, behind⟩, found, read⟩
  rcases determined.value scalar found with ⟨first, suffix⟩
  have skipped := (skipSeparators_suffix behind).trans suffix
  dsimp only at read
  split at read
  · cases read
  · rename_i next after shape
    rw [shape] at skipped
    have further := (List.suffix_cons next after).trans skipped
    split at read
    · cases read
      exact ⟨fun _ inside => List.mem_singleton.mp inside ▸ first, further⟩
    · split at read
      · rcases Option.bind_eq_some_iff.mp read with ⟨⟨more, last⟩, found, read⟩
        cases read
        have suffix := (skipSeparators_suffix after).trans further
        rcases determined.items (isScalar_suffix scalar suffix) found
          with ⟨all, ends⟩
        exact ⟨List.forall_mem_cons.mpr ⟨first, all⟩, ends.trans suffix⟩
      · cases read

theorem members_succ
    {members : Members}
    (read : readMembers? (fuel + 1) text = some (members, rest)) :
    (∀ member ∈ members, Unpaired member.1 ∧ WellFormed member.2) ∧
      rest <:+ text := by
  match text, scalar, read with
  | c :: behind, scalar, read =>
      rw [readMembers?] at read
      split at read
      · rcases Option.bind_eq_some_iff.mp read with ⟨⟨key, afterKey⟩, found, read⟩
        have keySuffix : behind <:+ c :: behind := List.suffix_cons _ _
        rcases unpaired_of_readString? (isScalar_suffix scalar keySuffix) found
          with ⟨unpaired, suffix, _⟩
        rcases Option.bind_eq_some_iff.mp read with ⟨afterColon, colon, read⟩
        have colonSuffix :=
          (((skipSeparators_suffix afterColon).trans (after?_suffix colon)).trans
            ((skipSeparators_suffix afterKey).trans suffix)).trans keySuffix
        rcases Option.bind_eq_some_iff.mp read
          with ⟨⟨value, afterValue⟩, found, read⟩
        rcases determined.value (isScalar_suffix scalar colonSuffix) found
          with ⟨wellFormed, suffix⟩
        have skipped :=
          ((skipSeparators_suffix afterValue).trans suffix).trans colonSuffix
        dsimp only at read
        split at read
        · cases read
        · rename_i next after shape
          rw [shape] at skipped
          have further := (List.suffix_cons next after).trans skipped
          split at read
          · cases read
            exact ⟨fun _ inside =>
              List.mem_singleton.mp inside ▸ ⟨unpaired, wellFormed⟩, further⟩
          · split at read
            · rcases Option.bind_eq_some_iff.mp read
                with ⟨⟨more, last⟩, found, read⟩
              cases read
              have suffix := (skipSeparators_suffix after).trans further
              rcases determined.members (isScalar_suffix scalar suffix) found
                with ⟨all, ends⟩
              exact ⟨List.forall_mem_cons.mpr ⟨⟨unpaired, wellFormed⟩, all⟩,
                ends.trans suffix⟩
            · cases read
      · cases read

theorem value_succ
    {value : Json}
    (read : readValue? (fuel + 1) text = some (value, rest)) :
    WellFormed value ∧ rest <:+ text := by
  match text, scalar, read with
  | c :: behind, scalar, read =>
      have own : behind <:+ c :: behind := List.suffix_cons _ _
      have scalarBehind := isScalar_suffix scalar own
      have skipped := (skipSeparators_suffix behind).trans own
      have plain := read
      rw [readValue?] at read
      by_cases quote : c = '"'
      · rw [if_pos quote] at read
        rcases Option.bind_eq_some_iff.mp read with ⟨⟨shown, after⟩, found, read⟩
        cases read
        rcases unpaired_of_readString? scalarBehind found
          with ⟨unpaired, suffix, _⟩
        exact ⟨.string unpaired, suffix.trans own⟩
      rw [if_neg quote] at read
      by_cases bracket : c = '['
      · rw [if_pos bracket] at read
        split at read
        · cases read
        · rename_i next after shape
          rw [shape] at skipped
          split at read
          · cases read
            exact ⟨.array (List.forall_mem_nil _),
              (List.suffix_cons _ _).trans skipped⟩
          · rcases Option.bind_eq_some_iff.mp read
              with ⟨⟨items, last⟩, found, read⟩
            cases read
            rcases determined.items (isScalar_suffix scalar skipped) found
              with ⟨all, ends⟩
            exact ⟨.array all, ends.trans skipped⟩
      rw [if_neg bracket] at read
      by_cases brace : c.val = 0x7B
      · rw [if_pos brace] at read
        split at read
        · cases read
        · rename_i next after shape
          rw [shape] at skipped
          split at read
          · cases read
            exact ⟨.object List.nodup_nil (List.forall_mem_nil _)
                (List.forall_mem_nil _),
              (List.suffix_cons _ _).trans skipped⟩
          · rcases Option.bind_eq_some_iff.mp read
              with ⟨⟨members, last⟩, found, read⟩
            cases read
            rcases determined.members (isScalar_suffix scalar skipped) found
              with ⟨all, ends⟩
            refine ⟨.object (Members.nodup_ofList members) ?_ ?_,
              ends.trans skipped⟩
            · exact fun member inside =>
                (all member (Members.mem_of_mem_ofList inside)).1
            · exact fun member inside =>
                (all member (Members.mem_of_mem_ofList inside)).2
      exact wellFormed_of_plain quote bracket brace plain

end ReadsDetermined

theorem readsDetermined (fuel : Nat) : ReadsDetermined fuel := by
  induction fuel with
  | zero => exact ⟨nofun, nofun, nofun⟩
  | succ fuel induction =>
      exact ⟨fun scalar => induction.value_succ scalar,
        fun scalar => induction.items_succ scalar,
        fun scalar => induction.members_succ scalar⟩

/-- A value that is read from a text without surrogates can be written. -/
theorem wellFormed_of_read?
    (scalar : Utf8.IsScalar text)
    (read : read? text = some value) :
    WellFormed value := by
  rcases Option.bind_eq_some_iff.mp read with ⟨⟨found, behind⟩, first, read⟩
  have scalarAfter := isScalar_suffix scalar (skipSeparators_suffix text)
  dsimp only at read
  split at read
  · cases read
    exact ((readsDetermined _).value scalarAfter first).1
  · cases read

end ClauseEditor.Json
