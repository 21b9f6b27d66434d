import Marginalia.Number.Digits
import Marginalia.Text.Blank

/-!
# UTF-8

Files hold bytes. A text is written as the UTF-8 form of its characters; bytes are read one at a
time, and the first byte that no well-formed sequence can contain at its place ends the reading
with the span of the broken sequence.

## Main definitions

* `Utf8.encode`: the bytes of a text
* `Utf8.decode`: the text of bytes, or the first broken sequence
* `Text.unixLines`: the text with every line end written as a line feed

## Main results

* `Utf8.encode_append`: a text is encoded character by character
-/

namespace Marginalia

/-- Byte strings, as the contents of files. -/
abbrev Bytes := List UInt8

namespace Utf8

/-- A byte that continues a sequence and carries the low six bits of `n`. -/
def tail (n : Nat) : UInt8 := UInt8.ofNat (0x80 + n % 64)

/-- The bytes of a character. -/
def encodeChar (c : Char) : Bytes :=
  let n := c.toNat
  if n < 0x80 then [UInt8.ofNat n]
  else if n < 0x800 then [UInt8.ofNat (0xc0 + n / 64), tail n]
  else if n < 0x10000 then [UInt8.ofNat (0xe0 + n / 4096), tail (n / 64), tail n]
  else [UInt8.ofNat (0xf0 + n / 262144), tail (n / 4096), tail (n / 64), tail n]

/-- The bytes of a text. -/
def encode (s : Text) : Bytes := s.flatMap encodeChar

@[simp] theorem encode_nil : encode [] = [] := rfl

/-- **A text is encoded character by character.** -/
@[simp] theorem encode_append (s t : Text) : encode (s ++ t) = encode s ++ encode t := by
  simp [encode]

/-- Why a sequence of bytes is broken. -/
inductive Reason where
  /-- No sequence starts with this byte. -/
  | start
  /-- A sequence cannot go on with this byte. -/
  | continuation
  /-- The bytes end inside a sequence. -/
  | ended
  deriving DecidableEq, Repr

/-- A broken sequence: the position of its first byte and of the byte after its last one. -/
structure Broken where
  /-- The first byte. -/
  byte : UInt8
  /-- Its position. -/
  first : Nat
  /-- The position after the last byte that belongs to the sequence. -/
  stop : Nat
  /-- What is wrong. -/
  reason : Reason
  deriving DecidableEq, Repr

/-- Where a reader stands in a sequence. -/
inductive Pending where
  /-- Between characters. -/
  | none
  /-- After the bytes of value `value`, the first of them `byte` and `seen` in number, with `left`
  more to come, the next one from `low` to `high`. -/
  | tail (byte : UInt8) (seen left low high value : Nat)
  deriving DecidableEq, Repr

/-- What may follow a byte that starts a sequence. -/
def leading? (b : UInt8) : Option Pending :=
  let n := b.toNat
  if n < 0xc2 then .none
  else if n < 0xe0 then some (.tail b 1 1 0x80 0xbf (n - 0xc0))
  else if n = 0xe0 then some (.tail b 1 2 0xa0 0xbf 0)
  else if n = 0xed then some (.tail b 1 2 0x80 0x9f 13)
  else if n < 0xf0 then some (.tail b 1 2 0x80 0xbf (n - 0xe0))
  else if n = 0xf0 then some (.tail b 1 3 0x90 0xbf 0)
  else if n < 0xf4 then some (.tail b 1 3 0x80 0xbf (n - 0xf0))
  else if n = 0xf4 then some (.tail b 1 3 0x80 0x8f 4)
  else .none

/-- The text of the bytes from position `pos` on, with the characters before it in reverse. -/
def decodeFrom : Nat → Pending → Text → Bytes → Except Broken Text
  | _, .none, before, [] => .ok before.reverse
  | pos, .tail byte seen _ _ _ _, _, [] => .error ⟨byte, pos - seen, pos, .ended⟩
  | pos, .none, before, b :: r =>
    if b.toNat < 0x80 then decodeFrom (pos + 1) .none (Char.ofNat b.toNat :: before) r
    else
      match leading? b with
      | some pending => decodeFrom (pos + 1) pending before r
      | .none => .error ⟨b, pos, pos + 1, .start⟩
  | pos, .tail byte seen left low high value, before, b :: r =>
    if low ≤ b.toNat ∧ b.toNat ≤ high then
      let value := 64 * value + b.toNat % 64
      if left ≤ 1 then decodeFrom (pos + 1) .none (Char.ofNat value :: before) r
      else decodeFrom (pos + 1) (.tail byte (seen + 1) (left - 1) 0x80 0xbf value) before r
    else .error ⟨byte, pos - seen, pos, .continuation⟩

/-- The text of bytes, or the first broken sequence. -/
def decode (bs : Bytes) : Except Broken Text := decodeFrom 0 .none [] bs

/-- The words for a reason. -/
def Reason.message : Reason → Text
  | .start => "invalid start byte".toList
  | .continuation => "invalid continuation byte".toList
  | .ended => "unexpected end of data".toList

/-- The words for a broken sequence. -/
def Broken.message (e : Broken) : Text :=
  "'utf-8' codec can't decode ".toList ++
    (if e.stop - e.first = 1 then
      "byte 0x".toList ++ Digits.hexWide false 2 e.byte.toNat ++ " in position ".toList
        ++ Digits.decimal e.first
    else
      "bytes in position ".toList ++ Digits.decimal e.first ++ ['-']
        ++ Digits.decimal (e.stop - 1))
    ++ ": ".toList ++ e.reason.message

end Utf8

/-- The text with every line end, be it a carriage return, a line feed or the pair of both, written
as a line feed. -/
def Text.unixLines : Text → Text
  | [] => []
  | '\r' :: '\n' :: r => '\n' :: unixLines r
  | c :: r => (if c = '\r' then '\n' else c) :: unixLines r

end Marginalia
