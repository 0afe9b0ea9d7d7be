/-!
# UTF-8

Reading bytes as text in three ways. `scan` reads one sequence: its character, or the reason why the bytes are no sequence
together with how many of them the fault covers, which is the longest start of a sequence found there. The strict reader
`decode` stops at the first fault and reports it; `codes` does so too, but lets surrogates pass, which have bytes like those
of a character and are none; `repair` writes a replacement character for each fault and reads on behind it.

Main statement: `scan_ascii`.
-/

namespace HelixGateway.Text

abbrev Bytes := List UInt8

/-- Why bytes are not the encoding of a text. -/
inductive DecodeFault where
  | invalidStart
  | invalidContinuation
  | unexpectedEnd
  | truncated
  | outOfRange
  deriving DecidableEq, Repr

/-- The reason in words. -/
def DecodeFault.text : DecodeFault → String
  | .invalidStart => "invalid start byte"
  | .invalidContinuation => "invalid continuation byte"
  | .unexpectedEnd => "unexpected end of data"
  | .truncated => "truncated data"
  | .outOfRange => "code point not in range(0x110000)"

/-- A refusal to decode: the encoding, the offset of the bytes at fault, those bytes, and the reason. -/
structure DecodeError where
  encoding : String
  offset : Nat
  bytes : Bytes
  fault : DecodeFault
  deriving DecidableEq, Repr

/-- A digit of base sixteen, in lower case. -/
def hexDigit (n : Nat) : Char := if n < 10 then Char.ofNat (48 + n) else Char.ofNat (87 + n)

/-- The value of a digit of base sixteen, in either case. -/
def hexValue? (c : Char) : Option Nat :=
  if '0' ≤ c ∧ c ≤ '9' then some (c.toNat - 48)
  else if 'a' ≤ c ∧ c ≤ 'f' then some (c.toNat - 87)
  else if 'A' ≤ c ∧ c ≤ 'F' then some (c.toNat - 55)
  else none

/-- A byte as two digits of base sixteen, in lower case. -/
def hexByte (b : UInt8) : List Char := [hexDigit (b.toNat / 16), hexDigit (b.toNat % 16)]

/-- The refusal in words: a single byte is shown, several are named by their first and last offset. -/
def DecodeError.message (e : DecodeError) : String :=
  let place :=
    match e.bytes with
    | [b] => "byte 0x" ++ String.ofList (hexByte b) ++ " in position " ++ toString e.offset
    | bs => "bytes in position " ++ toString e.offset ++ "-" ++ toString (e.offset + bs.length - 1)
  "'" ++ e.encoding ++ "' codec can't decode " ++ place ++ ": " ++ e.fault.text

namespace Utf8

/-- The outcome at one position; `more` counts the bytes beyond the first. -/
inductive Scan where
  | char (c : Char) (more : Nat)
  | fault (reason : DecodeFault) (more : Nat)
  deriving DecidableEq

/-- Reads `n` further bytes of a sequence whose value so far is `acc` and of which `taken` further bytes are read. The
next byte has to lie between `lo` and `hi`; those after it may be any continuation bytes. -/
def scanTail : Nat → UInt8 → UInt8 → Nat → Nat → Bytes → Scan
  | 0, _, _, acc, taken, _ => .char (Char.ofNat acc) taken
  | _ + 1, _, _, _, taken, [] => .fault .unexpectedEnd taken
  | n + 1, lo, hi, acc, taken, b :: bs =>
    if lo ≤ b ∧ b ≤ hi then scanTail n 0x80 0xBF (acc * 64 + (b.toNat - 0x80)) (taken + 1) bs
    else .fault .invalidContinuation taken

/-- Reads the sequence that a byte starts. The bounds on the second byte exclude the long forms, the surrogates and what
lies beyond U+10FFFF. -/
def scan (b : UInt8) (bs : Bytes) : Scan :=
  if b < 0x80 then .char (Char.ofNat b.toNat) 0
  else if b < 0xC2 then .fault .invalidStart 0
  else if b < 0xE0 then scanTail 1 0x80 0xBF (b.toNat - 0xC0) 0 bs
  else if b < 0xF0 then
    scanTail 2 (if b = 0xE0 then 0xA0 else 0x80) (if b = 0xED then 0x9F else 0xBF) (b.toNat - 0xE0) 0 bs
  else if b < 0xF5 then
    scanTail 3 (if b = 0xF0 then 0x90 else 0x80) (if b = 0xF4 then 0x8F else 0xBF) (b.toNat - 0xF0) 0 bs
  else .fault .invalidStart 0

/-- Strict reading from the offset `pos`, the next `skip` bytes being read already. -/
def decodeFrom (skip pos : Nat) : Bytes → Except DecodeError (List Char)
  | [] => .ok []
  | b :: bs =>
    match skip with
    | k + 1 => decodeFrom k (pos + 1) bs
    | 0 =>
      match scan b bs with
      | .char c more => (decodeFrom more (pos + 1) bs).map (c :: ·)
      | .fault reason more => .error ⟨"utf-8", pos, b :: bs.take more, reason⟩

/-- The text that bytes encode, or the first fault. -/
def decode (bs : Bytes) : Except DecodeError (List Char) := decodeFrom 0 0 bs

/-- The surrogate that bytes start with. -/
def surrogate? : Bytes → Option Nat
  | b :: c :: d :: _ =>
    if b = 0xED ∧ 0xA0 ≤ c ∧ c ≤ 0xBF ∧ 0x80 ≤ d ∧ d ≤ 0xBF then
      some (0xD000 + (c.toNat - 0x80) * 64 + (d.toNat - 0x80))
    else none
  | _ => none

/-- Reading of code points from the offset `pos`, the next `skip` bytes being read already. -/
def codesFrom (skip pos : Nat) : Bytes → Except DecodeError (List Nat)
  | [] => .ok []
  | b :: bs =>
    match skip with
    | k + 1 => codesFrom k (pos + 1) bs
    | 0 =>
      match surrogate? (b :: bs) with
      | some n => (codesFrom 2 (pos + 1) bs).map (n :: ·)
      | none =>
        match scan b bs with
        | .char c more => (codesFrom more (pos + 1) bs).map (c.toNat :: ·)
        | .fault reason more => .error ⟨"utf-8", pos, b :: bs.take more, reason⟩

/-- The code points that bytes stand for, surrogates among them, or the first fault. -/
def codes (bs : Bytes) : Except DecodeError (List Nat) := codesFrom 0 0 bs

/-- Lenient reading, the next `skip` bytes being read already. -/
def repairFrom (skip : Nat) : Bytes → List Char
  | [] => []
  | b :: bs =>
    match skip with
    | k + 1 => repairFrom k bs
    | 0 =>
      match scan b bs with
      | .char c more => c :: repairFrom more bs
      | .fault _ more => Char.ofNat 0xFFFD :: repairFrom more bs

/-- The text that bytes encode, with a replacement character for each fault. -/
def repair (bs : Bytes) : List Char := repairFrom 0 bs

/-- The bytes of a text. -/
def encode (s : List Char) : Bytes := s.flatMap String.utf8EncodeChar

/-- A byte of the seven-bit range is a sequence of its own. -/
theorem scan_ascii {b : UInt8} (h : b < 0x80) (bs : Bytes) : scan b bs = .char (Char.ofNat b.toNat) 0 := by
  rw [scan, if_pos h]

end Utf8

end HelixGateway.Text
