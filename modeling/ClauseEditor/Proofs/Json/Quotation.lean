import Mathlib.Data.List.Chain
import ClauseEditor.Json.Reader
import ClauseEditor.Json.Writer
import ClauseEditor.Proofs.Text.Utf8

/-!
# Strings in quotes

Every character is read back from its escape, with one exception: where the
first half of a surrogate pair has the second half behind it, the two escapes
are read as one character.  So a string is read back if no two halves stand
next to each other as in a pair, and a string that was read from a text
without surrogates is always of this kind.
-/

namespace ClauseEditor.Json

/-- No two neighbours are the halves of a surrogate pair. -/
def Unpaired (text : Text) : Prop :=
  text.IsChain fun c next => c.isHighHalf = true → next.isLowHalf = false

instance (text : Text) : Decidable (Unpaired text) :=
  inferInstanceAs (Decidable (text.IsChain _))

/-! ## Escapes -/

section Escapes

variable {c : CodePoint} {rest : Text} {unit : Nat}

theorem hexValue?_hexDigit (n : Nat) :
    hexValue? (hexDigit n) = some (n % 16) := by
  have digits :
      ∀ digit < 16,
        hexValue? (CodePoint.ofChar (Nat.digitChar digit)) = some digit := by
    decide
  exact digits _ (Nat.mod_lt n (by decide))

/-- The escape of a unit after its backslash and its letter. -/
def unitDigits (unit : Nat) : Text :=
  [hexDigit (unit / 0x1000), hexDigit (unit / 0x100), hexDigit (unit / 0x10),
    hexDigit unit]

theorem escapeUnit_eq (unit : Nat) :
    escapeUnit unit = Text.ofString "\\u" ++ unitDigits unit := rfl

theorem readUnit?_append
    (small : unit < 0x10000)
    (rest : Text) :
    readUnit? (unitDigits unit ++ rest) = some (unit, rest) := by
  change readUnit? (hexDigit (unit / 0x1000) :: hexDigit (unit / 0x100) ::
    hexDigit (unit / 0x10) :: hexDigit unit :: rest) = _
  simp only [readUnit?, hexValue?_hexDigit, Option.bind_eq_bind,
    Option.bind_some, Option.some.injEq, Prod.mk.injEq, and_true]
  omega

theorem after?_append (word : String) (rest : Text) :
    after? word (Text.ofString word ++ rest) = some rest := by
  have starts :
      (Text.ofString word ++ rest).startsWith (Text.ofString word) = true :=
    List.isPrefixOf_iff_prefix.mpr (List.prefix_append _ _)
  have length : word.length = (Text.ofString word).length := by
    rw [Text.ofString, List.length_map, String.length_toList]
  rw [after?, if_pos starts, length, List.drop_left]

theorem readLowHalf?_escapeUnit
    (small : unit < 0x10000)
    (rest : Text) :
    readLowHalf? (escapeUnit unit ++ rest) =
      if 0xDC00 ≤ unit ∧ unit ≤ 0xDFFF then some (unit, rest) else none := by
  rw [escapeUnit_eq, List.append_assoc, readLowHalf?, after?_append]
  simp only [Option.bind_eq_bind, Option.bind_some, readUnit?_append small]

theorem readEscape?_u (text : Text) :
    readEscape? (CodePoint.ofChar 'u' :: text) =
      (readUnit? text).bind fun read =>
        if 0xD800 ≤ read.1 ∧ read.1 ≤ 0xDBFF then
          match readLowHalf? read.2 with
          | some (low, rest) =>
            some (CodePoint.ofNat
              (0x10000 + (read.1 - 0xD800) * 0x400 + (low - 0xDC00)), rest)
          | none => some (CodePoint.ofNat read.1, read.2)
        else some (CodePoint.ofNat read.1, read.2) := rfl

/-- The escape of a unit is read as its character, unless a pair is read. -/
theorem readEscape?_unit
    (small : unit < 0x10000)
    (alone : 0xD800 ≤ unit ∧ unit ≤ 0xDBFF → readLowHalf? rest = none) :
    readEscape? (CodePoint.ofChar 'u' :: (unitDigits unit ++ rest)) =
      some (CodePoint.ofNat unit, rest) := by
  rw [readEscape?_u, readUnit?_append small, Option.bind_some]
  by_cases high : 0xD800 ≤ unit ∧ unit ≤ 0xDBFF
  · rw [if_pos high, alone high]
  · rw [if_neg high]

/-- The escapes of the two halves of a pair are read as one character. -/
theorem readEscape?_pair
    {low : Nat}
    (high : 0xD800 ≤ unit ∧ unit ≤ 0xDBFF)
    (lowHalf : 0xDC00 ≤ low ∧ low ≤ 0xDFFF)
    (rest : Text) :
    readEscape?
        (CodePoint.ofChar 'u' :: (unitDigits unit ++ (escapeUnit low ++ rest))) =
      some (CodePoint.ofNat
        (0x10000 + (unit - 0xD800) * 0x400 + (low - 0xDC00)), rest) := by
  have small : unit < 0x10000 := by omega
  have smallLow : low < 0x10000 := by omega
  rw [readEscape?_u, readUnit?_append small, Option.bind_some, if_pos high,
    readLowHalf?_escapeUnit smallLow, if_pos lowHalf]

theorem eq_of_after?
    {word : String}
    {text : Text}
    (found : after? word text = some rest) :
    text = Text.ofString word ++ rest := by
  rw [after?] at found
  split at found
  · rename_i starts
    rcases List.isPrefixOf_iff_prefix.mp starts with ⟨behind, rfl⟩
    have whole := after?_append word behind
    rw [after?, if_pos starts, found] at whole
    rw [Option.some.inj whole]
  · cases found

/-- The escape of a lower half is read as the lower half. -/
theorem exists_of_readLowHalf?
    {text : Text}
    (found : readLowHalf? text = some (unit, rest)) :
    ∃ digits,
      text = CodePoint.ofChar '\\' :: CodePoint.ofChar 'u' :: digits ∧
        (0xDC00 ≤ unit ∧ unit ≤ 0xDFFF) ∧
        readEscape? (CodePoint.ofChar 'u' :: digits) =
          some (CodePoint.ofNat unit, rest) := by
  rcases Option.bind_eq_some_iff.mp found with ⟨digits, starts, found⟩
  rcases Option.bind_eq_some_iff.mp found with ⟨⟨value, behind⟩, read, found⟩
  dsimp only at found
  split at found
  · rename_i low
    cases found
    refine ⟨digits, eq_of_after? starts, low, ?_⟩
    rw [readEscape?_u, read, Option.bind_some, if_neg (by omega)]
  · cases found

/--
A character is written as it is, or as a backslash and a text that is read as
the character.
-/
theorem escape_cases (c : CodePoint) :
    escape c = [c] ∧ c ≠ '"' ∧ c ≠ '\\' ∧ ¬ c.val < 0x20 ∨
      ∃ tail,
        escape c = CodePoint.ofChar '\\' :: tail ∧
          ∀ rest,
            (c.isHighHalf = true → readLowHalf? rest = none) →
              readEscape? (tail ++ rest) = some (c, rest) := by
  have named (letter : Char) (shown : CodePoint) (same : c = shown)
      (written : escape shown = [CodePoint.ofChar '\\', CodePoint.ofChar letter])
      (read : ∀ rest, readEscape? (CodePoint.ofChar letter :: rest) =
        some (shown, rest)) :
      ∃ tail,
        escape c = CodePoint.ofChar '\\' :: tail ∧
          ∀ rest,
            (c.isHighHalf = true → readLowHalf? rest = none) →
              readEscape? (tail ++ rest) = some (c, rest) :=
    ⟨_, same ▸ written, fun rest _ => same ▸ read rest⟩
  by_cases quote : c = '"'
  · exact Or.inr (named '"' _ quote rfl fun _ => rfl)
  by_cases backslash : c = '\\'
  · exact Or.inr (named '\\' _ backslash rfl fun _ => rfl)
  by_cases lineFeed : c = '\n'
  · exact Or.inr (named 'n' _ lineFeed rfl fun _ => rfl)
  by_cases carriageReturn : c = '\r'
  · exact Or.inr (named 'r' _ carriageReturn rfl fun _ => rfl)
  by_cases tab : c = '\t'
  · exact Or.inr (named 't' _ tab rfl fun _ => rfl)
  by_cases formFeed : c.val = 0x0C
  · exact Or.inr (named 'f' (CodePoint.ofNat 0x0C) (CodePoint.ext formFeed) rfl
      fun _ => rfl)
  by_cases backspace : c.val = 0x08
  · exact Or.inr (named 'b' (CodePoint.ofNat 0x08) (CodePoint.ext backspace) rfl
      fun _ => rfl)
  rw [escape, if_neg quote, if_neg backslash, if_neg lineFeed,
    if_neg carriageReturn, if_neg tab, if_neg formFeed, if_neg backspace]
  by_cases printable : 0x20 ≤ c.val ∧ c.val ≤ 0x7E
  · rw [if_pos printable]
    exact Or.inl ⟨rfl, quote, backslash, Nat.not_lt.mpr printable.1⟩
  rw [if_neg printable]
  by_cases small : c.val < 0x10000
  · rw [if_pos small]
    refine Or.inr ⟨CodePoint.ofChar 'u' :: unitDigits c.val, rfl, ?_⟩
    intro rest alone
    have read :=
      readEscape?_unit small fun high => alone (by
        simpa [CodePoint.isHighHalf] using high)
    rwa [CodePoint.ofNat_val] at read
  · rw [if_neg small]
    have bound := c.isLt
    refine Or.inr
      ⟨CodePoint.ofChar 'u' ::
        (unitDigits (0xD800 + (c.val - 0x10000) / 0x400) ++
          escapeUnit (0xDC00 + (c.val - 0x10000) % 0x400)), rfl, ?_⟩
    intro rest _
    rw [List.cons_append, List.append_assoc,
      readEscape?_pair (by omega) (by omega)]
    have value :
        0x10000 + (0xD800 + (c.val - 0x10000) / 0x400 - 0xD800) * 0x400 +
            (0xDC00 + (c.val - 0x10000) % 0x400 - 0xDC00) =
          c.val := by
      omega
    rw [value, CodePoint.ofNat_val]

theorem escape_of_isHighHalf
    (high : c.isHighHalf = true) :
    escape c = escapeUnit c.val := by
  simp only [CodePoint.isHighHalf, Bool.and_eq_true, decide_eq_true_eq] at high
  have different (letter : Char) (below : letter.toNat < 0xD800) :
      c ≠ CodePoint.ofChar letter := by
    rintro rfl
    exact absurd high.1 (Nat.not_le.mpr below)
  rw [escape, if_neg (different '"' (by decide)),
    if_neg (different '\\' (by decide)), if_neg (different '\n' (by decide)),
    if_neg (different '\r' (by decide)), if_neg (different '\t' (by decide)),
    if_neg (by omega), if_neg (by omega), if_neg (by omega), if_pos (by omega)]

/-- Only the escape of a lower half is read as one. -/
theorem readLowHalf?_escape
    (noLow : c.isLowHalf = false)
    (rest : Text) :
    readLowHalf? (escape c ++ rest) = none := by
  by_cases high : c.isHighHalf = true
  · rw [escape_of_isHighHalf high]
    simp only [CodePoint.isHighHalf, Bool.and_eq_true, decide_eq_true_eq]
      at high
    rw [readLowHalf?_escapeUnit (by omega), if_neg (by omega)]
  · rw [← Option.not_isSome_iff_eq_none, Option.isSome_iff_exists]
    rintro ⟨⟨low, behind⟩, found⟩
    rcases exists_of_readLowHalf? found with ⟨text, shape, lowHalf, read⟩
    rcases escape_cases c with ⟨written, _, backslash, _⟩ | ⟨tail, written, back⟩
    · rw [written] at shape
      exact backslash (List.cons.inj shape).1
    · have same := back rest fun isHigh => absurd isHigh high
      rw [written] at shape
      have after : tail ++ rest = CodePoint.ofChar 'u' :: text :=
        (List.cons.inj shape).2
      rw [after, read, Option.some.injEq, Prod.mk.injEq] at same
      rw [← same.1, CodePoint.isLowHalf, CodePoint.val_ofNat (by omega)] at noLow
      simp [lowHalf] at noLow

end Escapes

/-! ## Strings -/

section Strings

variable {c : CodePoint} {text rest : Text} {fuel : Nat}

/-- A string with one more character in front, and the rest. -/
def prepend (c : CodePoint) (read : Text × Text) : Text × Text :=
  (c :: read.1, read.2)

theorem readString?_plain
    (quote : c ≠ '"')
    (backslash : c ≠ '\\')
    (shown : ¬ c.val < 0x20) :
    readString? (fuel + 1) (c :: rest) =
      (readString? fuel rest).map (prepend c) := by
  rw [readString?, if_neg quote, if_neg backslash, if_neg shown]
  cases readString? fuel rest <;> rfl

theorem readString?_backslash :
    readString? (fuel + 1) (CodePoint.ofChar '\\' :: rest) =
      (readEscape? rest).bind fun read =>
        (readString? fuel read.2).map (prepend read.1) := by
  have noQuote : CodePoint.ofChar '\\' ≠ '"' := by decide
  rw [readString?, if_neg noQuote, if_pos rfl]
  cases readEscape? rest with
  | none => rfl
  | some read =>
      rcases read with ⟨shown, behind⟩
      change ((readString? fuel behind).bind fun read =>
        some (shown :: read.1, read.2)) = (readString? fuel behind).map _
      cases readString? fuel behind <;> rfl

/-- A character is read from its escape, unless it joins what is behind it. -/
theorem readString?_escape
    (alone : c.isHighHalf = true → readLowHalf? rest = none) :
    readString? (fuel + 1) (escape c ++ rest) =
      (readString? fuel rest).map (prepend c) := by
  rcases escape_cases c with
    ⟨written, quote, backslash, shown⟩ | ⟨tail, written, read⟩
  · rw [written]
    exact readString?_plain quote backslash shown
  · rw [written, List.cons_append, readString?_backslash, read rest alone]
    rfl

/-- A string is read back from between its quotes. -/
theorem readString?_append
    (unpaired : Unpaired text)
    (enough : text.length < fuel)
    (rest : Text) :
    readString? fuel (text.flatMap escape ++ (Text.ofString "\"" ++ rest)) =
      some (text, rest) := by
  induction text generalizing fuel with
  | nil =>
      rcases Nat.exists_eq_succ_of_ne_zero (Nat.ne_of_gt enough)
        with ⟨fewer, rfl⟩
      rfl
  | cons c text induction =>
      rcases Nat.exists_eq_succ_of_ne_zero (Nat.ne_of_gt (Nat.zero_lt_of_lt enough))
        with ⟨fewer, rfl⟩
      rw [List.flatMap_cons, List.append_assoc]
      have alone :
          c.isHighHalf = true →
            readLowHalf? (text.flatMap escape ++ (Text.ofString "\"" ++ rest)) =
              none := by
        intro high
        cases text with
        | nil => rfl
        | cons next more =>
            rw [List.flatMap_cons, List.append_assoc]
            exact readLowHalf?_escape
              ((List.isChain_cons_cons.mp unpaired).1 high) _
      rw [readString?_escape alone,
        induction unpaired.of_cons (Nat.lt_of_succ_lt_succ enough)]
      rfl

end Strings

/-! ## Strings that are read -/

section Read

variable {c : CodePoint} {text shown rest : Text} {unit fuel : Nat}

theorem isScalar_suffix
    (scalar : Utf8.IsScalar text)
    (suffix : rest <:+ text) :
    Utf8.IsScalar rest :=
  fun c member => scalar c (suffix.subset member)

theorem readUnit?_suffix
    (read : readUnit? text = some (unit, rest)) :
    rest <:+ text := by
  match text, read with
  | first :: second :: third :: fourth :: behind, read =>
      simp only [readUnit?, Option.bind_eq_bind, Option.bind_eq_some_iff]
        at read
      rcases read with ⟨_, _, _, _, _, _, _, _, last⟩
      cases last
      exact ⟨[first, second, third, fourth], rfl⟩

theorem readLowHalf?_suffix
    (read : readLowHalf? text = some (unit, rest)) :
    rest <:+ text := by
  rcases Option.bind_eq_some_iff.mp read with ⟨digits, starts, read⟩
  rcases Option.bind_eq_some_iff.mp read with ⟨⟨value, behind⟩, found, read⟩
  dsimp only at read
  split at read
  · cases read
    rw [eq_of_after? starts]
    exact (readUnit?_suffix found).trans (List.suffix_append _ _)
  · cases read

theorem val_ofNat_eq_or (n : Nat) :
    (CodePoint.ofNat n).val = n ∨ (CodePoint.ofNat n).val = 0xFFFD := by
  rw [CodePoint.ofNat]
  split
  · exact Or.inl rfl
  · exact Or.inr rfl

/--
An escape is read as half of a surrogate pair only if it names this half and,
if it is the first half, no second half comes next.
-/
theorem readEscape?_cases
    (read : readEscape? text = some (c, rest)) :
    Utf8.isSurrogate c = false ∧ rest <:+ text ∨
      ∃ digits unit,
        text = CodePoint.ofChar 'u' :: digits ∧
          readUnit? digits = some (unit, rest) ∧
          c = CodePoint.ofNat unit ∧
          (0xD800 ≤ unit ∧ unit ≤ 0xDBFF → readLowHalf? rest = none) := by
  match text, read with
  | letter :: behind, read =>
      by_cases unitLetter : letter = 'u'
      · subst unitLetter
        rw [readEscape?_u] at read
        rcases Option.bind_eq_some_iff.mp read
          with ⟨⟨unit, after⟩, found, read⟩
        dsimp only at read
        split at read
        · split at read
          · rename_i low joined behindLow
            rcases Prod.mk.inj (Option.some.inj read) with ⟨rfl, rfl⟩
            refine Or.inl ⟨?_, ?_⟩
            · rw [Utf8.isSurrogate_eq_false_iff]
              rcases val_ofNat_eq_or
                  (0x10000 + (unit - 0xD800) * 0x400 + (low - 0xDC00)) with
                value | value
              · omega
              · omega
            · exact ((readLowHalf?_suffix behindLow).trans
                (readUnit?_suffix found)).trans (List.suffix_cons _ _)
          · rename_i alone
            cases read
            exact Or.inr ⟨behind, unit, rfl, found, rfl, fun _ => alone⟩
        · rename_i noHigh
          cases read
          exact Or.inr
            ⟨behind, unit, rfl, found, rfl, fun high => absurd high noHigh⟩
      · have named (shown : CodePoint)
            (same : some (shown, behind) = some (c, rest))
            (plain : Utf8.isSurrogate shown = false) :
            Utf8.isSurrogate c = false ∧ rest <:+ letter :: behind := by
          cases same
          exact ⟨plain, List.suffix_cons _ _⟩
        rw [readEscape?] at read
        split at read
        · rename_i itself
          refine Or.inl (named letter read ?_)
          rcases itself with rfl | rfl | rfl
          · rfl
          · rfl
          · rfl
        split at read
        · exact Or.inl (named _ read rfl)
        split at read
        · exact Or.inl (named _ read rfl)
        split at read
        · exact Or.inl (named _ read rfl)
        split at read
        · exact Or.inl (named _ read rfl)
        split at read
        · exact Or.inl (named _ read rfl)
        cases read

theorem readEscape?_suffix
    (read : readEscape? text = some (c, rest)) :
    rest <:+ text := by
  rcases readEscape?_cases read with
    ⟨_, suffix⟩ | ⟨digits, unit, rfl, found, _⟩
  · exact suffix
  · exact (readUnit?_suffix found).trans (List.suffix_cons _ _)

/-- The escape of a first half has no escape of a second half behind it. -/
theorem readLowHalf?_eq_none_of_readEscape?
    (read : readEscape? text = some (c, rest))
    (high : c.isHighHalf = true) :
    readLowHalf? rest = none := by
  rcases readEscape?_cases read with ⟨plain, _⟩ | ⟨digits, unit, _, _, rfl, alone⟩
  · rw [Utf8.isSurrogate, high] at plain
    cases plain
  · simp only [CodePoint.isHighHalf, Bool.and_eq_true, decide_eq_true_eq]
      at high
    apply alone
    rcases val_ofNat_eq_or unit with value | value
    · omega
    · omega

/-- What is read as a second half is the escape of one. -/
theorem readLowHalf?_ne_none_of_readEscape?
    (read : readEscape? text = some (c, rest))
    (low : c.isLowHalf = true) :
    readLowHalf? (CodePoint.ofChar '\\' :: text) ≠ none := by
  rcases readEscape?_cases read with ⟨plain, _⟩ | ⟨digits, unit, rfl, found, rfl, _⟩
  · rw [Utf8.isSurrogate, low, Bool.or_true] at plain
    cases plain
  · simp only [CodePoint.isLowHalf, Bool.and_eq_true, decide_eq_true_eq] at low
    have range : 0xDC00 ≤ unit ∧ unit ≤ 0xDFFF := by
      rcases val_ofNat_eq_or unit with value | value
      · omega
      · omega
    have starts : after? "\\u"
        (CodePoint.ofChar '\\' :: CodePoint.ofChar 'u' :: digits) = some digits :=
      after?_append "\\u" digits
    rw [readLowHalf?, starts]
    simp only [Option.bind_eq_bind, Option.bind_some, found, if_pos range]
    exact Option.some_ne_none _

/-- A string that was read holds no pair that is written as its halves. -/
theorem unpaired_of_readString?
    (scalar : Utf8.IsScalar text)
    (read : readString? fuel text = some (shown, rest)) :
    Unpaired shown ∧ rest <:+ text ∧
      ∀ c ∈ shown.head?, c.isLowHalf = true → readLowHalf? text ≠ none := by
  induction fuel generalizing text shown with
  | zero => cases read
  | succ fuel induction =>
      match text, scalar, read with
      | c :: behind, scalar, read =>
          have plain : Utf8.isSurrogate c = false := scalar c List.mem_cons_self
          by_cases quote : c = '"'
          · rw [readString?, if_pos quote] at read
            cases read
            exact ⟨.nil, List.suffix_cons _ _, nofun⟩
          by_cases backslash : c = '\\'
          · subst backslash
            rw [readString?_backslash] at read
            rcases Option.bind_eq_some_iff.mp read
              with ⟨⟨first, after⟩, escaped, read⟩
            rcases Option.map_eq_some_iff.mp read
              with ⟨⟨others, last⟩, found, same⟩
            cases same
            have suffix : after <:+ CodePoint.ofChar '\\' :: behind :=
              (readEscape?_suffix escaped).trans (List.suffix_cons _ _)
            rcases induction (isScalar_suffix scalar suffix) found
              with ⟨unpaired, further, low⟩
            refine ⟨List.isChain_cons.mpr ⟨?_, unpaired⟩,
              further.trans suffix, ?_⟩
            · intro next stands high
              by_contra isLow
              exact low next stands (eq_true_of_ne_false isLow)
                (readLowHalf?_eq_none_of_readEscape? escaped high)
            · rintro _ ⟨⟩ isLow
              exact readLowHalf?_ne_none_of_readEscape? escaped isLow
          · by_cases control : c.val < 0x20
            · rw [readString?, if_neg quote, if_neg backslash, if_pos control]
                at read
              cases read
            · rw [readString?_plain quote backslash control] at read
              rcases Option.map_eq_some_iff.mp read
                with ⟨⟨others, last⟩, found, same⟩
              cases same
              have suffix : behind <:+ c :: behind := List.suffix_cons _ _
              rcases induction (isScalar_suffix scalar suffix) found
                with ⟨unpaired, further, _⟩
              rw [Utf8.isSurrogate, Bool.or_eq_false_iff] at plain
              refine ⟨List.isChain_cons.mpr ⟨?_, unpaired⟩,
                further.trans suffix, ?_⟩
              · intro next _ high
                rw [plain.1] at high
                cases high
              · rintro _ ⟨⟩ isLow
                rw [plain.2] at isLow
                cases isLow

end Read

end ClauseEditor.Json
