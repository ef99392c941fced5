import ClauseEditor.Text.CodePoint

/-!
# UTF-8

Decoding is strict: it refuses overlong forms, surrogates and numbers past
the last code point, and says where and why.  A fault covers the bytes of the
sequence that could not be completed, without the byte that broke it.
Encoding refuses half of a surrogate pair.
-/

namespace ClauseEditor.Utf8

/-- What is wrong with a sequence of bytes. -/
inductive FaultReason where
  | invalidStart
  | invalidContinuation
  | unexpectedEnd
deriving DecidableEq

/-- A sequence that does not encode a code point. -/
structure Fault where
  firstByte : UInt8
  start : Nat
  count : Nat
  reason : FaultReason
deriving DecidableEq

def FaultReason.message : FaultReason → Text
  | invalidStart => Text.ofString "invalid start byte"
  | invalidContinuation => Text.ofString "invalid continuation byte"
  | unexpectedEnd => Text.ofString "unexpected end of data"

/-- A byte as two hexadecimal digits. -/
def hexByte (byte : UInt8) : Text :=
  [CodePoint.ofChar (Nat.digitChar (byte.toNat / 16)),
    CodePoint.ofChar (Nat.digitChar (byte.toNat % 16))]

/-- The report of a fault. -/
def Fault.message (fault : Fault) : Text :=
  let place :=
    if fault.count = 1 then
      Text.ofString "byte 0x" ++ hexByte fault.firstByte ++
        Text.ofString " in position " ++ Text.ofNat fault.start
    else
      Text.ofString "bytes in position " ++ Text.ofNat fault.start ++
        Text.ofString "-" ++ Text.ofNat (fault.start + fault.count - 1)
  Text.ofString "'utf-8' codec can't decode " ++ place ++
    Text.ofString ": " ++ fault.reason.message

/-- A sequence whose first bytes have been read. -/
structure Pending where
  firstByte : UInt8
  start : Nat
  /-- How many bytes are missing. -/
  missing : Nat
  /-- The least and the greatest value of the next byte. -/
  low : Nat
  high : Nat
  /-- The bits read so far. -/
  value : Nat

/-- What a byte of more than seven bits begins, if it begins anything. -/
def begin? (byte : UInt8) (start : Nat) : Option Pending :=
  let b := byte.toNat
  if 0xC2 ≤ b ∧ b ≤ 0xDF then
    some ⟨byte, start, 1, 0x80, 0xBF, b - 0xC0⟩
  else if 0xE0 ≤ b ∧ b ≤ 0xEF then
    some ⟨byte, start, 2, if b = 0xE0 then 0xA0 else 0x80,
      if b = 0xED then 0x9F else 0xBF, b - 0xE0⟩
  else if 0xF0 ≤ b ∧ b ≤ 0xF4 then
    some ⟨byte, start, 3, if b = 0xF0 then 0x90 else 0x80,
      if b = 0xF4 then 0x8F else 0xBF, b - 0xF0⟩
  else none

/-- The fault of a sequence that breaks off before `position`. -/
def Pending.fault
    (pending : Pending)
    (position : Nat)
    (reason : FaultReason) :
    Fault :=
  ⟨pending.firstByte, pending.start, position - pending.start, reason⟩

/-- The text of the bytes from `position` on. -/
def decodeFrom (position : Nat) (pending? : Option Pending) :
    List UInt8 → Except Fault Text
  | [] =>
    match pending? with
    | none => .ok []
    | some pending => .error (pending.fault position .unexpectedEnd)
  | byte :: rest =>
    match pending? with
    | none =>
      if byte.toNat < 0x80 then
        (decodeFrom (position + 1) none rest).map
          (CodePoint.ofNat byte.toNat :: ·)
      else
        match begin? byte position with
        | none => .error ⟨byte, position, 1, .invalidStart⟩
        | some pending => decodeFrom (position + 1) (some pending) rest
    | some pending =>
      if pending.low ≤ byte.toNat ∧ byte.toNat ≤ pending.high then
        let value := pending.value * 0x40 + (byte.toNat - 0x80)
        if pending.missing = 1 then
          (decodeFrom (position + 1) none rest).map
            (CodePoint.ofNat value :: ·)
        else
          decodeFrom (position + 1)
            (some ⟨pending.firstByte, pending.start, pending.missing - 1,
              0x80, 0xBF, value⟩) rest
      else .error (pending.fault position .invalidContinuation)

/-- The text of some bytes. -/
def decode (bytes : List UInt8) : Except Fault Text :=
  decodeFrom 0 none bytes

/-- The bytes of a code point that is no surrogate. -/
def encodeOne (c : CodePoint) : List UInt8 :=
  let n := c.val
  let tail (n : Nat) : UInt8 := UInt8.ofNat (0x80 + n % 0x40)
  if n < 0x80 then [UInt8.ofNat n]
  else if n < 0x800 then [UInt8.ofNat (0xC0 + n / 0x40), tail n]
  else if n < 0x10000 then
    [UInt8.ofNat (0xE0 + n / 0x1000), tail (n / 0x40), tail n]
  else
    [UInt8.ofNat (0xF0 + n / 0x40000), tail (n / 0x1000), tail (n / 0x40),
      tail n]

/-- A run of surrogates, which have no bytes. -/
structure Unencodable where
  first : CodePoint
  start : Nat
  count : Nat
deriving DecidableEq

def isSurrogate (c : CodePoint) : Bool :=
  c.isHighHalf || c.isLowHalf

/-- The bytes of a text. -/
def encode (text : Text) : Except Unencodable (List UInt8) :=
  match text.dropWhile fun c => !isSurrogate c with
  | [] => .ok (text.flatMap encodeOne)
  | first :: rest =>
    .error ⟨first, text.length - (first :: rest).length,
      ((first :: rest).takeWhile isSurrogate).length⟩

end ClauseEditor.Utf8
