import Mathlib.Data.List.TakeWhile
import ClauseEditor.Text.Utf8

/-!
# Decoding undoes encoding

A text without halves of surrogate pairs has bytes, and these decode to the
text again.  Decoding is strict: bytes that decode to a text are the bytes of
the text, so no two sequences of bytes are read as the same text.

Both directions go through the bytes of one code point.  The first of them
tells how many follow and within which bounds the second one lies; the bounds
keep out the numbers that have fewer bytes, the surrogates, and the numbers
past the last code point.
-/

namespace ClauseEditor.Utf8

theorem toNat_ofNat
    {n : Nat}
    (small : n < 0x100) :
    (UInt8.ofNat n).toNat = n := by
  rw [UInt8.toNat_ofNat']
  exact Nat.mod_eq_of_lt small

theorem ofNat_eq
    {n : Nat}
    {byte : UInt8}
    (same : n = byte.toNat) :
    UInt8.ofNat n = byte := by
  rw [same, UInt8.ofNat_toNat]

theorem isSurrogate_eq_false_iff {c : CodePoint} :
    isSurrogate c = false ↔ c.val < 0xD800 ∨ 0xDFFF < c.val := by
  simp only [isSurrogate, CodePoint.isHighHalf, CodePoint.isLowHalf,
    Bool.or_eq_false_iff, Bool.and_eq_false_iff, decide_eq_false_iff_not]
  omega

/-! ## Sequences -/

/-- A byte that continues a sequence. -/
def IsTail (byte : UInt8) : Prop :=
  0x80 ≤ byte.toNat ∧ byte.toNat ≤ 0xBF

/-- The bytes that stand for a code point. -/
inductive Sequence : List UInt8 → CodePoint → Prop where
  | one
      {first : UInt8}
      (ascii : first.toNat < 0x80) :
      Sequence [first] (.ofNat first.toNat)
  | two
      {first second : UInt8}
      (lead : 0xC2 ≤ first.toNat ∧ first.toNat ≤ 0xDF)
      (tail : IsTail second) :
      Sequence [first, second]
        (.ofNat ((first.toNat - 0xC0) * 0x40 + (second.toNat - 0x80)))
  | three
      {first second third : UInt8}
      (lead : 0xE0 ≤ first.toNat ∧ first.toNat ≤ 0xEF)
      (next : IsTail second)
      (low : first.toNat = 0xE0 → 0xA0 ≤ second.toNat)
      (high : first.toNat = 0xED → second.toNat ≤ 0x9F)
      (tail : IsTail third) :
      Sequence [first, second, third]
        (.ofNat
          (((first.toNat - 0xE0) * 0x40 + (second.toNat - 0x80)) * 0x40 +
            (third.toNat - 0x80)))
  | four
      {first second third fourth : UInt8}
      (lead : 0xF0 ≤ first.toNat ∧ first.toNat ≤ 0xF4)
      (next : IsTail second)
      (low : first.toNat = 0xF0 → 0x90 ≤ second.toNat)
      (high : first.toNat = 0xF4 → second.toNat ≤ 0x8F)
      (tail : IsTail third)
      (last : IsTail fourth) :
      Sequence [first, second, third, fourth]
        (.ofNat
          ((((first.toNat - 0xF0) * 0x40 + (second.toNat - 0x80)) * 0x40 +
              (third.toNat - 0x80)) * 0x40 +
            (fourth.toNat - 0x80)))

namespace Sequence

variable {bytes : List UInt8} {c : CodePoint}

/-- The bounds keep out the surrogates. -/
theorem isSurrogate_eq_false
    (sequence : Sequence bytes c) :
    isSurrogate c = false := by
  rw [isSurrogate_eq_false_iff]
  cases sequence with
  | one ascii =>
      rw [CodePoint.val_ofNat (by omega)]
      omega
  | two lead tail =>
      rw [IsTail] at tail
      rw [CodePoint.val_ofNat (by omega)]
      omega
  | three lead next low high tail =>
      rw [IsTail] at next tail
      rw [CodePoint.val_ofNat (by omega)]
      omega
  | four lead next low high tail last =>
      rw [IsTail] at next tail last
      rw [CodePoint.val_ofNat (by omega)]
      omega

/-- The bounds keep out the numbers that have fewer bytes. -/
theorem encodeOne_eq
    (sequence : Sequence bytes c) :
    encodeOne c = bytes := by
  cases sequence with
  | one ascii =>
      rw [encodeOne, CodePoint.val_ofNat (by omega), if_pos ascii,
        UInt8.ofNat_toNat]
  | two lead tail =>
      rw [IsTail] at tail
      rw [encodeOne, CodePoint.val_ofNat (by omega), if_neg (by omega),
        if_pos (by omega)]
      simp only [List.cons.injEq, and_true]
      exact ⟨ofNat_eq (by omega), ofNat_eq (by omega)⟩
  | three lead next low high tail =>
      rw [IsTail] at next tail
      rw [encodeOne, CodePoint.val_ofNat (by omega), if_neg (by omega),
        if_neg (by omega), if_pos (by omega)]
      simp only [List.cons.injEq, and_true]
      exact ⟨ofNat_eq (by omega), ofNat_eq (by omega), ofNat_eq (by omega)⟩
  | four lead next low high tail last =>
      rw [IsTail] at next tail last
      rw [encodeOne, CodePoint.val_ofNat (by omega), if_neg (by omega),
        if_neg (by omega), if_neg (by omega)]
      simp only [List.cons.injEq, and_true]
      exact ⟨ofNat_eq (by omega), ofNat_eq (by omega), ofNat_eq (by omega),
        ofNat_eq (by omega)⟩

theorem length_pos
    (sequence : Sequence bytes c) :
    0 < bytes.length := by
  cases sequence <;> exact Nat.succ_pos _

end Sequence

/-- Every code point but a surrogate has a sequence. -/
theorem sequence_encodeOne
    {c : CodePoint}
    (scalar : isSurrogate c = false) :
    Sequence (encodeOne c) c := by
  rw [isSurrogate_eq_false_iff] at scalar
  have bound := c.isLt
  have toNat_tail (n : Nat) :
      (UInt8.ofNat (0x80 + n % 0x40)).toNat = 0x80 + n % 0x40 :=
    toNat_ofNat (by omega)
  have isTail (n : Nat) : IsTail (UInt8.ofNat (0x80 + n % 0x40)) := by
    rw [IsTail, toNat_tail]
    omega
  rw [encodeOne]
  dsimp only
  split
  · have lead := toNat_ofNat (n := c.val) (by omega)
    have sequence := @Sequence.one (UInt8.ofNat c.val) (by omega)
    rwa [lead, CodePoint.ofNat_val] at sequence
  · split
    · have lead := toNat_ofNat (n := 0xC0 + c.val / 0x40) (by omega)
      have sequence :=
        Sequence.two (by rw [lead]; omega) (isTail c.val)
      have value :
          (0xC0 + c.val / 0x40 - 0xC0) * 0x40 + (0x80 + c.val % 0x40 - 0x80) =
            c.val := by
        omega
      rwa [lead, toNat_tail, value, CodePoint.ofNat_val] at sequence
    · split
      · have lead := toNat_ofNat (n := 0xE0 + c.val / 0x1000) (by omega)
        have sequence :=
          Sequence.three (by rw [lead]; omega) (isTail (c.val / 0x40))
            (by rw [lead, toNat_tail]; omega)
            (by rw [lead, toNat_tail]; omega) (isTail c.val)
        have value :
            ((0xE0 + c.val / 0x1000 - 0xE0) * 0x40 +
                  (0x80 + c.val / 0x40 % 0x40 - 0x80)) * 0x40 +
                (0x80 + c.val % 0x40 - 0x80) =
              c.val := by
          omega
        rwa [lead, toNat_tail, toNat_tail, value, CodePoint.ofNat_val]
          at sequence
      · have lead := toNat_ofNat (n := 0xF0 + c.val / 0x40000) (by omega)
        have sequence :=
          Sequence.four (by rw [lead]; omega) (isTail (c.val / 0x1000))
            (by rw [lead, toNat_tail]; omega)
            (by rw [lead, toNat_tail]; omega) (isTail (c.val / 0x40))
            (isTail c.val)
        have value :
            (((0xF0 + c.val / 0x40000 - 0xF0) * 0x40 +
                    (0x80 + c.val / 0x1000 % 0x40 - 0x80)) * 0x40 +
                  (0x80 + c.val / 0x40 % 0x40 - 0x80)) * 0x40 +
                (0x80 + c.val % 0x40 - 0x80) =
              c.val := by
          omega
        rwa [lead, toNat_tail, toNat_tail, toNat_tail, value,
          CodePoint.ofNat_val] at sequence

/-! ## Reading one code point -/

theorem map_eq_ok_iff
    {Value Result : Type}
    {change : Value → Result}
    {result : Except Fault Value}
    {changed : Result} :
    result.map change = .ok changed ↔
      ∃ value, result = .ok value ∧ change value = changed := by
  cases result <;> simp [Except.map]

section Steps

variable {bytes : List UInt8} {text : Text} {position : Nat} {pending : Pending}

/-- The code point that a last byte completes. -/
def Pending.completed (pending : Pending) (byte : UInt8) : CodePoint :=
  CodePoint.ofNat (pending.value * 0x40 + (byte.toNat - 0x80))

/-- The sequence with one byte more, which does not complete it. -/
def Pending.extended (pending : Pending) (byte : UInt8) : Pending :=
  ⟨pending.firstByte, pending.start, pending.missing - 1, 0x80, 0xBF,
    pending.value * 0x40 + (byte.toNat - 0x80)⟩

theorem decodeFrom_last
    {byte : UInt8}
    (inside : pending.low ≤ byte.toNat ∧ byte.toNat ≤ pending.high)
    (complete : pending.missing = 1)
    (rest : List UInt8) :
    decodeFrom position (some pending) (byte :: rest) =
      (decodeFrom (position + 1) none rest).map
        (pending.completed byte :: ·) := by
  rw [decodeFrom, if_pos inside]
  dsimp only
  rw [if_pos complete]
  rfl

theorem decodeFrom_next
    {byte : UInt8}
    (inside : pending.low ≤ byte.toNat ∧ byte.toNat ≤ pending.high)
    (incomplete : pending.missing ≠ 1)
    (rest : List UInt8) :
    decodeFrom position (some pending) (byte :: rest) =
      decodeFrom (position + 1) (some (pending.extended byte)) rest := by
  rw [decodeFrom, if_pos inside]
  dsimp only
  rw [if_neg incomplete]
  rfl

theorem decodeFrom_ascii
    {byte : UInt8}
    (ascii : byte.toNat < 0x80)
    (rest : List UInt8) :
    decodeFrom position none (byte :: rest) =
      (decodeFrom (position + 1) none rest).map
        (CodePoint.ofNat byte.toNat :: ·) := by
  rw [decodeFrom, if_pos ascii]

theorem decodeFrom_begin
    {byte : UInt8}
    (begins : begin? byte position = some pending)
    (beyond : 0x80 ≤ byte.toNat)
    (rest : List UInt8) :
    decodeFrom position none (byte :: rest) =
      decodeFrom (position + 1) (some pending) rest := by
  rw [decodeFrom, if_neg (Nat.not_lt.mpr beyond), begins]

/-- A sequence goes on with a byte within its bounds. -/
theorem exists_of_decodeFrom_some
    (decoded : decodeFrom position (some pending) bytes = .ok text) :
    ∃ byte rest,
      bytes = byte :: rest ∧
        pending.low ≤ byte.toNat ∧ byte.toNat ≤ pending.high := by
  cases bytes with
  | nil => cases decoded
  | cons byte rest =>
      by_cases inside : pending.low ≤ byte.toNat ∧ byte.toNat ≤ pending.high
      · exact ⟨byte, rest, rfl, inside⟩
      · rw [decodeFrom, if_neg inside] at decoded
        cases decoded

theorem exists_of_decodeFrom_last
    (complete : pending.missing = 1)
    (decoded : decodeFrom position (some pending) bytes = .ok text) :
    ∃ byte rest behind,
      bytes = byte :: rest ∧
        (pending.low ≤ byte.toNat ∧ byte.toNat ≤ pending.high) ∧
        text = pending.completed byte :: behind ∧
        decodeFrom (position + 1) none rest = .ok behind := by
  rcases exists_of_decodeFrom_some decoded with ⟨byte, rest, rfl, inside⟩
  rw [decodeFrom_last inside complete, map_eq_ok_iff] at decoded
  rcases decoded with ⟨behind, further, rfl⟩
  exact ⟨byte, rest, behind, rfl, inside, rfl, further⟩

theorem exists_of_decodeFrom_next
    (incomplete : pending.missing ≠ 1)
    (decoded : decodeFrom position (some pending) bytes = .ok text) :
    ∃ byte rest,
      bytes = byte :: rest ∧
        (pending.low ≤ byte.toNat ∧ byte.toNat ≤ pending.high) ∧
        decodeFrom (position + 1) (some (pending.extended byte)) rest =
          .ok text := by
  rcases exists_of_decodeFrom_some decoded with ⟨byte, rest, rfl, inside⟩
  rw [decodeFrom_next inside incomplete] at decoded
  exact ⟨byte, rest, rfl, inside, decoded⟩

/-- What a first byte of more than seven bits says about its sequence. -/
theorem begin?_eq_some
    {byte : UInt8}
    (begins : begin? byte position = some pending) :
    (0xC2 ≤ byte.toNat ∧ byte.toNat ≤ 0xDF) ∧
        pending = ⟨byte, position, 1, 0x80, 0xBF, byte.toNat - 0xC0⟩ ∨
      (0xE0 ≤ byte.toNat ∧ byte.toNat ≤ 0xEF) ∧
        pending =
          ⟨byte, position, 2, if byte.toNat = 0xE0 then 0xA0 else 0x80,
            if byte.toNat = 0xED then 0x9F else 0xBF, byte.toNat - 0xE0⟩ ∨
      (0xF0 ≤ byte.toNat ∧ byte.toNat ≤ 0xF4) ∧
        pending =
          ⟨byte, position, 3, if byte.toNat = 0xF0 then 0x90 else 0x80,
            if byte.toNat = 0xF4 then 0x8F else 0xBF, byte.toNat - 0xF0⟩ := by
  simp only [begin?] at begins
  split at begins
  · rename_i lead
    exact .inl ⟨lead, (Option.some.inj begins).symm⟩
  · split at begins
    · rename_i lead
      exact .inr (.inl ⟨lead, (Option.some.inj begins).symm⟩)
    · split at begins
      · rename_i lead
        exact .inr (.inr ⟨lead, (Option.some.inj begins).symm⟩)
      · cases begins

/-- The bounds of a second byte: those of any, and closer ones after two bytes. -/
theorem bounds_iff
    {lead least most low high : Nat}
    {byte : UInt8}
    (low_ge : 0x80 ≤ low)
    (high_le : high ≤ 0xBF) :
    ((if lead = least then low else 0x80) ≤ byte.toNat ∧
        byte.toNat ≤ if lead = most then high else 0xBF) ↔
      IsTail byte ∧ (lead = least → low ≤ byte.toNat) ∧
        (lead = most → byte.toNat ≤ high) := by
  rw [IsTail]
  split <;> split <;> omega

/-- A sequence is read as its code point, whatever follows. -/
theorem Sequence.decodeFrom_append
    {sequence : List UInt8}
    {c : CodePoint}
    (stands : Sequence sequence c)
    (position : Nat)
    (rest : List UInt8) :
    ∃ next,
      decodeFrom position none (sequence ++ rest) =
        (decodeFrom next none rest).map (c :: ·) := by
  cases stands with
  | one ascii => exact ⟨_, decodeFrom_ascii ascii rest⟩
  | @two first second lead tail =>
      have begins :
          begin? first position =
            some ⟨first, position, 1, 0x80, 0xBF, first.toNat - 0xC0⟩ :=
        if_pos lead
      exact ⟨_, (decodeFrom_begin begins (by omega) _).trans
        (decodeFrom_last (by exact tail) rfl rest)⟩
  | @three first second third lead next low high tail =>
      have begins :
          begin? first position =
            some ⟨first, position, 2,
              if first.toNat = 0xE0 then 0xA0 else 0x80,
              if first.toNat = 0xED then 0x9F else 0xBF,
              first.toNat - 0xE0⟩ := by
        rw [begin?, if_neg (by omega), if_pos lead]
      have bounds :=
        (bounds_iff (by decide) (by decide)).mpr ⟨next, low, high⟩
      exact ⟨_, (decodeFrom_begin begins (by omega) _).trans
        ((decodeFrom_next bounds (by decide : 2 ≠ 1) _).trans
          (decodeFrom_last (by exact tail) rfl rest))⟩
  | @four first second third fourth lead next low high tail last =>
      have begins :
          begin? first position =
            some ⟨first, position, 3,
              if first.toNat = 0xF0 then 0x90 else 0x80,
              if first.toNat = 0xF4 then 0x8F else 0xBF,
              first.toNat - 0xF0⟩ := by
        rw [begin?, if_neg (by omega), if_neg (by omega), if_pos lead]
      have bounds :=
        (bounds_iff (by decide) (by decide)).mpr ⟨next, low, high⟩
      exact ⟨_, (decodeFrom_begin begins (by omega) _).trans
        ((decodeFrom_next bounds (by decide : 3 ≠ 1) _).trans
          ((decodeFrom_next (by exact tail) (by decide : 2 ≠ 1) _).trans
            (decodeFrom_last (by exact last) rfl rest)))⟩

/-- Bytes that decode to a text begin with those of its first code point. -/
theorem exists_sequence_of_decodeFrom
    {byte : UInt8}
    (decoded : decodeFrom position none (byte :: bytes) = .ok text) :
    ∃ c sequence rest behind next,
      byte :: bytes = sequence ++ rest ∧ Sequence sequence c ∧
        text = c :: behind ∧ decodeFrom next none rest = .ok behind := by
  by_cases ascii : byte.toNat < 0x80
  · rw [decodeFrom_ascii ascii, map_eq_ok_iff] at decoded
    rcases decoded with ⟨behind, further, rfl⟩
    exact ⟨_, [byte], bytes, behind, _, rfl, .one ascii, rfl, further⟩
  · cases begins : begin? byte position with
    | none =>
        rw [decodeFrom, if_neg ascii, begins] at decoded
        cases decoded
    | some pending =>
        rw [decodeFrom_begin begins (Nat.not_lt.mp ascii)] at decoded
        rcases begin?_eq_some begins
          with ⟨lead, rfl⟩ | ⟨lead, rfl⟩ | ⟨lead, rfl⟩
        · rcases exists_of_decodeFrom_last rfl decoded
            with ⟨second, rest, behind, rfl, tail, rfl, further⟩
          exact ⟨_, [byte, second], rest, behind, _, rfl, .two lead tail, rfl,
            further⟩
        · rcases exists_of_decodeFrom_next (by decide : 2 ≠ 1) decoded
            with ⟨second, bytes, rfl, bounds, decoded⟩
          rcases exists_of_decodeFrom_last rfl decoded
            with ⟨third, rest, behind, rfl, tail, rfl, further⟩
          rcases (bounds_iff (by decide) (by decide)).mp bounds
            with ⟨next, low, high⟩
          exact ⟨_, [byte, second, third], rest, behind, _, rfl,
            .three lead next low high tail, rfl, further⟩
        · rcases exists_of_decodeFrom_next (by decide : 3 ≠ 1) decoded
            with ⟨second, bytes, rfl, bounds, decoded⟩
          rcases exists_of_decodeFrom_next (by decide : 2 ≠ 1) decoded
            with ⟨third, bytes, rfl, tail, decoded⟩
          rcases exists_of_decodeFrom_last rfl decoded
            with ⟨fourth, rest, behind, rfl, last, rfl, further⟩
          rcases (bounds_iff (by decide) (by decide)).mp bounds
            with ⟨next, low, high⟩
          exact ⟨_, [byte, second, third, fourth], rest, behind, _, rfl,
            .four lead next low high tail last, rfl, further⟩

end Steps

/-! ## Texts -/

/-- No code point is half of a surrogate pair. -/
def IsScalar (text : Text) : Prop :=
  ∀ c ∈ text, isSurrogate c = false

instance (text : Text) : Decidable (IsScalar text) :=
  inferInstanceAs (Decidable (∀ c ∈ text, isSurrogate c = false))

theorem encode_of_isScalar
    {text : Text}
    (scalar : IsScalar text) :
    encode text = .ok (text.flatMap encodeOne) := by
  have all : text.dropWhile (fun c => !isSurrogate c) = [] := by
    rw [List.dropWhile_eq_nil_iff]
    intro c member
    rw [scalar c member]
    rfl
  rw [encode, all]

theorem isScalar_of_encode
    {text : Text}
    {bytes : List UInt8}
    (encoded : encode text = .ok bytes) :
    IsScalar text := by
  intro c member
  rw [encode] at encoded
  split at encoded
  · rename_i all
    rw [List.dropWhile_eq_nil_iff] at all
    simpa using all c member
  · cases encoded

/-- A text is read from its bytes. -/
theorem decodeFrom_flatMap_encodeOne
    {text : Text}
    (scalar : IsScalar text)
    (position : Nat) :
    decodeFrom position none (text.flatMap encodeOne) = .ok text := by
  induction text generalizing position with
  | nil => rfl
  | cons c text induction =>
      have sequence := sequence_encodeOne (scalar c List.mem_cons_self)
      rcases sequence.decodeFrom_append position (text.flatMap encodeOne)
        with ⟨next, read⟩
      rw [List.flatMap_cons, read, induction fun other member =>
        scalar other (List.mem_cons_of_mem c member)]
      rfl

/-- Bytes that are read as a text are those of the text. -/
theorem encode_of_decodeFrom
    {bytes : List UInt8}
    {text : Text}
    {position : Nat}
    (decoded : decodeFrom position none bytes = .ok text) :
    IsScalar text ∧ text.flatMap encodeOne = bytes := by
  -- What a sequence leaves is shorter, although by no fixed number of bytes.
  induction length : bytes.length using Nat.strong_induction_on
    generalizing bytes text position with
  | _ count induction =>
      cases bytes with
      | nil =>
          cases decoded
          exact ⟨fun c member => absurd member List.not_mem_nil, rfl⟩
      | cons byte bytes =>
          rcases exists_sequence_of_decodeFrom decoded
            with ⟨c, sequence, rest, behind, next, bytes_eq, stands, rfl,
              further⟩
          have shorter : rest.length < count := by
            rw [← length, bytes_eq, List.length_append]
            have one := stands.length_pos
            omega
          rcases induction _ shorter further rfl with ⟨scalar, rest_eq⟩
          constructor
          · intro other member
            rcases List.mem_cons.mp member with rfl | member
            · exact stands.isSurrogate_eq_false
            · exact scalar other member
          · rw [List.flatMap_cons, stands.encodeOne_eq, rest_eq, bytes_eq]

/-- Strict decoding is the inverse of encoding. -/
theorem decode_eq_ok_iff
    {bytes : List UInt8}
    {text : Text} :
    decode bytes = .ok text ↔ encode text = .ok bytes := by
  constructor
  · intro decoded
    rcases encode_of_decodeFrom decoded with ⟨scalar, bytes_eq⟩
    rw [encode_of_isScalar scalar, bytes_eq]
  · intro encoded
    have scalar := isScalar_of_encode encoded
    rw [encode_of_isScalar scalar] at encoded
    rw [← Except.ok.inj encoded]
    exact decodeFrom_flatMap_encodeOne scalar 0

/-- Equal texts have equal bytes, and different texts different ones. -/
theorem bytes_eq_iff
    {left right : Text}
    {leftBytes rightBytes : List UInt8}
    (leftEncoded : encode left = .ok leftBytes)
    (rightEncoded : encode right = .ok rightBytes) :
    leftBytes = rightBytes ↔ left = right := by
  constructor
  · rintro rfl
    have decoded := decode_eq_ok_iff.mpr leftEncoded
    rw [decode_eq_ok_iff.mpr rightEncoded] at decoded
    exact (Except.ok.inj decoded).symm
  · rintro rfl
    rw [leftEncoded] at rightEncoded
    exact Except.ok.inj rightEncoded

end ClauseEditor.Utf8
