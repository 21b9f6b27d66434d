import Marginalia.Text.Utf8

/-!
# Base 64

Three bytes as four characters of the standard alphabet, a last group of one or two bytes padded
with equals signs.

## Main definitions

* `Base64.encode`: the characters of bytes
* `Base64.rows`: the same, cut into lines
-/

namespace Marginalia

namespace Base64

/-- The character for six bits. -/
def char (n : Nat) : Char :=
  if n < 26 then Char.ofNat (65 + n)
  else if n < 52 then Char.ofNat (97 + (n - 26))
  else if n < 62 then Char.ofNat (48 + (n - 52))
  else if n = 62 then '+'
  else '/'

/-- The characters of bytes. -/
def encode : Bytes → Text
  | a :: b :: c :: r =>
    let n := a.toNat * 65536 + b.toNat * 256 + c.toNat
    char (n / 262144) :: char (n / 4096 % 64) :: char (n / 64 % 64) :: char (n % 64) :: encode r
  | [a, b] =>
    let n := a.toNat * 65536 + b.toNat * 256
    [char (n / 262144), char (n / 4096 % 64), char (n / 64 % 64), '=']
  | [a] =>
    let n := a.toNat * 65536
    [char (n / 262144), char (n / 4096 % 64), '=', '=']
  | [] => []

/-- The text in rows of `width` characters, at most `fuel` of them. -/
def chunks (width : Nat) : Nat → Text → List Text
  | 0, _ => []
  | fuel + 1, s => if s.isEmpty then [] else s.take width :: chunks width fuel (s.drop width)

/-- The characters of bytes in lines of 76. -/
def rows (bs : Bytes) : List Text := chunks 76 (encode bs).length (encode bs)

end Base64

end Marginalia
