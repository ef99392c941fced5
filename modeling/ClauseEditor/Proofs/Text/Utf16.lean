import ClauseEditor.Text.Utf16

/-!
# Decoding parts of a text

A unit that is not the first half of a pair is decoded by itself, whatever
follows.  So text below the surrogates can be cut off the front of a list of
units, or put there, without another reading of the rest.

A code point of a single unit comes from that unit, and no text is longer
than its units.
-/

namespace ClauseEditor.Utf16

@[simp]
theorem encode_cons (c : CodePoint) (text : Text) :
    encode (c :: text) = encodeOne c ++ encode text :=
  List.flatMap_cons

@[simp]
theorem encode_append (left right : Text) :
    encode (left ++ right) = encode left ++ encode right :=
  List.flatMap_append

theorem encode_singleton_ne_nil (c : CodePoint) : encode [c] ≠ [] := by
  rw [encode_cons, encodeOne]
  split <;> exact List.cons_ne_nil _ _

theorem decode_cons_of_not_isHigh
    {unit : CodeUnit}
    (single : unit.isHigh = false)
    (rest : List CodeUnit) :
    decode (unit :: rest) = unit.single :: decode rest := by
  cases rest with
  | nil => rfl
  | cons next rest =>
      have unpaired : ¬ (unit.isHigh && next.isLow) = true := by
        simp [single]
      rw [decode, if_neg unpaired]

/-- All code points of the text are below the surrogates. -/
def IsPlain (text : Text) : Prop :=
  ∀ c ∈ text, c.val < 0xD800

instance (text : Text) : Decidable (IsPlain text) :=
  inferInstanceAs (Decidable (∀ c ∈ text, c.val < 0xD800))

theorem encodeOne_of_lt
    {c : CodePoint}
    (below : c.val < 0xD800) :
    encodeOne c = [.ofNat c.val] := by
  rw [encodeOne, if_pos (by omega)]

theorem single_ofNat_val
    {c : CodePoint}
    (basic : c.val < 0x10000) :
    (CodeUnit.ofNat c.val).single = c :=
  CodePoint.ext (CodeUnit.val_ofNat basic)

theorem isHigh_ofNat_of_lt
    {n : Nat}
    (below : n < 0xD800) :
    (CodeUnit.ofNat n).isHigh = false := by
  simp [CodeUnit.isHigh, CodeUnit.val_ofNat (Nat.lt_trans below (by decide))]
  omega

theorem isLow_ofNat_of_lt
    {n : Nat}
    (below : n < 0xD800) :
    (CodeUnit.ofNat n).isLow = false := by
  simp [CodeUnit.isLow, CodeUnit.val_ofNat (Nat.lt_trans below (by decide))]
  omega

/-- Plain text in front is decoded by itself. -/
theorem decode_encode_append
    {text : Text}
    (plain : IsPlain text)
    (rest : List CodeUnit) :
    decode (encode text ++ rest) = text ++ decode rest := by
  induction text with
  | nil => rfl
  | cons c text induction =>
      have below := plain c List.mem_cons_self
      rw [encode_cons, encodeOne_of_lt below, List.singleton_append,
        List.cons_append, decode_cons_of_not_isHigh (isHigh_ofNat_of_lt below),
        single_ofNat_val (Nat.lt_trans below (by decide)),
        induction fun other member =>
          plain other (List.mem_cons_of_mem c member)]
      rfl

/-- A unit that is no second half begins a text of its own. -/
theorem decode_append_cons
    (left : List CodeUnit)
    {unit : CodeUnit}
    (notLow : unit.isLow = false)
    (rest : List CodeUnit) :
    decode (left ++ unit :: rest) = decode left ++ decode (unit :: rest) := by
  fun_induction decode left with
  | case1 => rfl
  | case2 last =>
      have unpaired : ¬ (last.isHigh && unit.isLow) = true := by
        simp [notLow]
      rw [List.singleton_append, decode, if_neg unpaired]
      rfl
  | case3 high low left paired induction =>
      rw [List.cons_append, List.cons_append, decode, if_pos paired, induction]
      rfl
  | case4 first second left unpaired induction =>
      rw [List.cons_append, List.cons_append, decode, if_neg unpaired,
        ← List.cons_append, induction]
      rfl

/-- The rest of a text that comes from units is read back. -/
theorem decode_encode_of_append
    {units : List CodeUnit}
    {front rest : Text}
    (decoded : decode units = front ++ rest) :
    decode (encode rest) = rest := by
  induction front generalizing units with
  | nil =>
      rw [List.nil_append] at decoded
      rw [← decoded, encode_decode]
  | cons c front induction =>
      -- What follows the first character comes from units as well.
      fun_cases decode units with
      | case1 => cases decoded
      | case2 unit =>
          have behind : decode [] = front ++ rest := (List.cons.inj decoded).2
          exact induction behind
      | case3 high low units paired =>
          rw [decode, if_pos paired] at decoded
          exact induction (List.cons.inj decoded).2
      | case4 unit second units unpaired =>
          rw [decode, if_neg unpaired] at decoded
          exact induction (List.cons.inj decoded).2

/-- The front of a text that comes from units is read back. -/
theorem decode_encode_front
    {units : List CodeUnit}
    {front rest : Text}
    (decoded : decode units = front ++ rest) :
    decode (encode front) = front := by
  fun_induction decode units generalizing front with
  | case1 =>
      rw [(List.append_eq_nil_iff.mp decoded.symm).1]
      rfl
  | case2 unit =>
      rcases front with _ | ⟨c, front⟩
      · rfl
      · obtain ⟨rfl, behind⟩ := List.cons.inj decoded
        rw [(List.append_eq_nil_iff.mp behind.symm).1, encode_cons,
          encodeOne_single]
        rfl
  | case3 high low units paired induction =>
      rcases front with _ | ⟨c, front⟩
      · rfl
      · obtain ⟨rfl, behind⟩ := List.cons.inj decoded
        have halves := Bool.and_eq_true_iff.mp paired
        rw [encode_cons, encodeOne_joined halves.1 halves.2, List.cons_append,
          List.singleton_append, decode, if_pos paired, induction behind]
  | case4 unit second units unpaired induction =>
      rcases front with _ | ⟨c, front⟩
      · rfl
      · obtain ⟨rfl, tail⟩ := List.cons.inj decoded
        have behind : decode (second :: units) = front ++ rest := tail
        have readBack := induction behind
        have others := encode_decode (second :: units)
        rw [behind, encode_append] at others
        rw [encode_cons, encodeOne_single, List.singleton_append]
        -- The unit that follows, if one does, is still no second half to it.
        cases parts : encode front with
        | nil =>
            rw [parts] at readBack
            rw [← readBack]
            rfl
        | cons next more =>
            rw [parts, List.cons_append] at others
            obtain ⟨rfl, -⟩ := List.cons.inj others
            rw [decode, if_neg unpaired, ← parts, readBack]

theorem length_encode_of_isPlain
    {text : Text}
    (plain : IsPlain text) :
    (encode text).length = text.length := by
  induction text with
  | nil => rfl
  | cons c text induction =>
      have below := plain c List.mem_cons_self
      rw [encode_cons, encodeOne_of_lt below, List.length_append,
        induction fun other member =>
          plain other (List.mem_cons_of_mem c member)]
      simp [Nat.add_comm]

/-- Plain text in front of a place is counted alike in units and code points. -/
theorem take_decode_of_isPlain
    {units : List CodeUnit}
    {count : Nat}
    (within : count ≤ units.length)
    (plain : IsPlain (decode (units.take count))) :
    (decode units).take count = decode (units.take count) := by
  have front := encode_decode (units.take count)
  have length : (decode (units.take count)).length = count := by
    rw [← length_encode_of_isPlain plain, front,
      List.length_take_of_le within]
  have parts :
      decode units =
        decode (units.take count) ++ decode (units.drop count) := by
    have split := decode_encode_append plain (units.drop count)
    rwa [front, List.take_append_drop] at split
  rw [parts, List.take_left' length]

theorem decode_take_of_isPlain
    {units : List CodeUnit}
    {count : Nat}
    (within : count ≤ units.length)
    (plain : IsPlain ((decode units).take count)) :
    decode (units.take count) = (decode units).take count := by
  have whole := encode_decode units
  rw [← List.take_append_drop count (decode units), encode_append] at whole
  have length : (encode ((decode units).take count)).length = count := by
    rw [length_encode_of_isPlain plain, List.length_take_of_le]
    -- A text too short for the count is plain, and has a unit for each.
    rcases Nat.le_total count (decode units).length with enough | short
    · exact enough
    · rw [List.take_of_length_le short] at plain
      have same := length_encode_of_isPlain plain
      rw [encode_decode] at same
      omega
  have front := congrArg (List.take count) whole
  rw [List.take_left' length] at front
  rw [← front]
  exact decode_encode_front (List.take_append_drop count _).symm

/-- The code point takes two units. -/
def takesTwo (c : CodePoint) : Bool :=
  0x10000 ≤ c.val

/-- A text has a unit for each code point, and one more for some of them. -/
theorem length_encode (text : Text) :
    (encode text).length = text.length + text.countP takesTwo := by
  induction text with
  | nil => rfl
  | cons c text induction =>
      rw [encode_cons, List.length_append, induction, List.length_cons,
        List.countP_cons, encodeOne, takesTwo]
      by_cases basic : c.val < 0x10000
      · rw [if_pos basic, if_neg (by simpa using basic), List.length_singleton]
        omega
      · rw [if_neg basic, if_pos (by simpa using basic), List.length_cons,
          List.length_singleton]
        omega

theorem length_le_length_encode (text : Text) :
    text.length ≤ (encode text).length := by
  rw [length_encode]
  exact Nat.le_add_right _ _

/-- Decoding never makes more of what there is. -/
theorem length_decode_le (units : List CodeUnit) :
    (decode units).length ≤ units.length := by
  have bound := length_le_length_encode (decode units)
  rwa [encode_decode] at bound

/-- A code point past the Basic Multilingual Plane is read from its pair. -/
theorem decode_pair
    {c : CodePoint}
    (beyond : 0x10000 ≤ c.val)
    (rest : List CodeUnit) :
    decode
        (.ofNat (0xD800 + (c.val - 0x10000) / 0x400) ::
          .ofNat (0xDC00 + (c.val - 0x10000) % 0x400) :: rest) =
      c :: decode rest := by
  have bound := c.isLt
  have high :
      (CodeUnit.ofNat (0xD800 + (c.val - 0x10000) / 0x400)).val =
        0xD800 + (c.val - 0x10000) / 0x400 :=
    CodeUnit.val_ofNat (by omega)
  have low :
      (CodeUnit.ofNat (0xDC00 + (c.val - 0x10000) % 0x400)).val =
        0xDC00 + (c.val - 0x10000) % 0x400 :=
    CodeUnit.val_ofNat (by omega)
  have paired :
      ((CodeUnit.ofNat (0xD800 + (c.val - 0x10000) / 0x400)).isHigh &&
          (CodeUnit.ofNat (0xDC00 + (c.val - 0x10000) % 0x400)).isLow) =
        true := by
    simp only [CodeUnit.isHigh, CodeUnit.isLow, high, low, Bool.and_eq_true,
      decide_eq_true_eq]
    omega
  have joined :
      CodeUnit.joined (.ofNat (0xD800 + (c.val - 0x10000) / 0x400))
          (.ofNat (0xDC00 + (c.val - 0x10000) % 0x400)) =
        c := by
    apply CodePoint.ext
    rw [CodeUnit.joined, high, low, CodePoint.val_ofNat (by omega)]
    omega
  rw [decode, if_pos paired, joined]

/-- A text without halves of surrogate pairs is read from its units. -/
theorem decode_encode
    {text : Text}
    (whole : ∀ c ∈ text, c.val < 0xD800 ∨ 0xDFFF < c.val) :
    decode (encode text) = text := by
  induction text with
  | nil => rfl
  | cons c text induction =>
      have own := whole c List.mem_cons_self
      have others := induction fun other member =>
        whole other (List.mem_cons_of_mem c member)
      rw [encode_cons, encodeOne]
      split
      · rename_i basic
        have single : (CodeUnit.ofNat c.val).isHigh = false := by
          simp only [CodeUnit.isHigh, CodeUnit.val_ofNat basic,
            Bool.and_eq_false_iff, decide_eq_false_iff_not]
          omega
        rw [List.singleton_append, decode_cons_of_not_isHigh single,
          single_ofNat_val basic, others]
      · rename_i beyond
        rw [List.cons_append, List.singleton_append,
          decode_pair (Nat.not_lt.mp beyond), others]

/-! ## Units without pairs -/

theorem single_injective : Function.Injective CodeUnit.single := by
  intro left right same
  exact CodeUnit.ext (congrArg CodePoint.val same)

theorem single_ofChar
    {c : Char}
    (basic : c.toNat < 0x10000) :
    (CodeUnit.ofChar c).single = CodePoint.ofChar c :=
  CodePoint.ext (CodeUnit.val_ofNat basic)

/-- No unit is half of a surrogate pair. -/
def IsBasic (units : List CodeUnit) : Prop :=
  ∀ unit ∈ units, unit.isHigh = false ∧ unit.isLow = false

instance (units : List CodeUnit) : Decidable (IsBasic units) :=
  inferInstanceAs
    (Decidable (∀ unit ∈ units, unit.isHigh = false ∧ unit.isLow = false))

namespace IsBasic

variable {units : List CodeUnit}

theorem tail
    {unit : CodeUnit}
    (basic : IsBasic (unit :: units)) :
    IsBasic units :=
  fun other member => basic other (List.mem_cons_of_mem unit member)

theorem drop
    (basic : IsBasic units)
    (count : Nat) :
    IsBasic (units.drop count) :=
  fun unit member => basic unit (List.mem_of_mem_drop member)

theorem take
    (basic : IsBasic units)
    (count : Nat) :
    IsBasic (units.take count) :=
  fun unit member => basic unit (List.mem_of_mem_take member)

theorem decode_eq
    (basic : IsBasic units) :
    decode units = units.map CodeUnit.single := by
  induction units with
  | nil => rfl
  | cons unit units induction =>
      rw [decode_cons_of_not_isHigh (basic unit List.mem_cons_self).1,
        induction basic.tail, List.map_cons]

theorem length_decode
    (basic : IsBasic units) :
    (decode units).length = units.length := by
  rw [basic.decode_eq, List.length_map]

theorem decode_drop
    (basic : IsBasic units)
    (count : Nat) :
    decode (units.drop count) = (decode units).drop count := by
  rw [basic.decode_eq, (basic.drop count).decode_eq, List.map_drop]

theorem isWellFormed
    (basic : IsBasic units) :
    isWellFormed units = true := by
  induction units with
  | nil => rfl
  | cons unit units induction =>
      rcases basic unit List.mem_cons_self with ⟨notHigh, notLow⟩
      cases units with
      | nil => simp [Utf16.isWellFormed, notHigh, notLow]
      | cons next units =>
          rw [Utf16.isWellFormed]
          simp [notHigh, notLow, induction basic.tail]

/-- The units of plain text start units whose text starts with it. -/
theorem isPrefixOf_encode
    (basic : IsBasic units)
    {part : Text}
    (plain : IsPlain part) :
    (encode part).isPrefixOf units = Text.startsWith (decode units) part := by
  rw [basic.decode_eq]
  induction part generalizing units with
  | nil => simp [encode]
  | cons c part induction =>
      have below := plain c List.mem_cons_self
      rw [encode_cons, encodeOne_of_lt below, List.singleton_append]
      cases units with
      | nil => rfl
      | cons unit units =>
          have same : CodeUnit.ofNat c.val = unit ↔ c = unit.single := by
            rw [← single_injective.eq_iff,
              single_ofNat_val (Nat.lt_trans below (by decide))]
          have behind :=
            induction basic.tail fun other member =>
              plain other (List.mem_cons_of_mem c member)
          simp only [Text.startsWith, List.map_cons, List.isPrefixOf] at behind ⊢
          rw [behind]
          simp [Bool.beq_eq_decide_eq, same]

end IsBasic

/-- A code point of the Basic Multilingual Plane stands in the units itself. -/
theorem exists_mem_of_mem_decode
    {units : List CodeUnit}
    {c : CodePoint}
    (member : c ∈ decode units)
    (basic : c.val < 0x10000) :
    ∃ unit ∈ units, unit.single = c := by
  fun_induction decode units with
  | case1 => simp at member
  | case2 unit =>
      exact ⟨unit, List.mem_cons_self, (List.mem_singleton.mp member).symm⟩
  | case3 high low rest paired induction =>
      rcases List.mem_cons.mp member with same | behind
      · simp only [Bool.and_eq_true, CodeUnit.isHigh, CodeUnit.isLow,
          decide_eq_true_eq] at paired
        have value :
            (CodeUnit.joined high low).val =
              0x10000 + (high.val - 0xD800) * 0x400 + (low.val - 0xDC00) :=
          CodePoint.val_ofNat (by omega)
        rw [same, value] at basic
        omega
      · rcases induction behind with ⟨unit, present, same⟩
        exact
          ⟨unit, List.mem_cons_of_mem high (List.mem_cons_of_mem low present),
            same⟩
  | case4 unit next rest unpaired induction =>
      rcases List.mem_cons.mp member with same | behind
      · exact ⟨unit, List.mem_cons_self, same.symm⟩
      · rcases induction behind with ⟨other, present, same⟩
        exact ⟨other, List.mem_cons_of_mem unit present, same⟩

end ClauseEditor.Utf16
