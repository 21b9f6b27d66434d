import Marginalia.Number.Digits
import Marginalia.Text.Blank
import Marginalia.Text.CharName

/-!
# Quoted literals

A text between single or double quotes, with a backslash in front of what may not stand there as
itself. The double quote is used only for a text with single quotes and no double ones. Which
characters beyond ASCII are shown as themselves is a parameter: a reader undoes the escapes of
either choice.

## Main definitions

* `Quoted.write printable s`: the literal of a text
* `Quoted.writeBytes bs`: the literal of a byte string
* `Quoted.read? q s`: the text of a literal whose opening quote `q` has been read, and the rest
* `Quoted.readBytes? q s`: the same for the literal of a byte string

## Main results

* `Quoted.quoteFor_eq_double_iff`: when the double quote is chosen
-/

namespace Marginalia

namespace Quoted

/-- The single quote. -/
def single : Char := Char.ofNat 0x27

/-- The double quote. -/
def double : Char := Char.ofNat 0x22

/-- The backslash. -/
def backslash : Char := Char.ofNat 0x5c

/-- The quote that a text is written between. -/
def quoteFor (s : Text) : Char :=
  if s.contains single && !s.contains double then double else single

/-- **The double quote is chosen exactly for a text with single quotes and no double ones.** -/
theorem quoteFor_eq_double_iff (s : Text) :
    quoteFor s = double ↔ single ∈ s ∧ double ∉ s := by
  have hne : single ≠ double := by decide
  simp only [quoteFor, Bool.and_eq_true, Bool.not_eq_true', List.contains_iff_mem]
  split <;> simp_all

/-- An escape by code point: the letter names the number of hexadecimal digits. -/
def codeEscape (letter : Char) (width n : Nat) : Text :=
  backslash :: letter :: Digits.hexWide false width n

/-- A character inside the quotes `q`. -/
def escape (printable : Char → Bool) (q c : Char) : Text :=
  if c = q ∨ c = backslash then [backslash, c]
  else if c = '\t' then [backslash, 't']
  else if c = '\n' then [backslash, 'n']
  else if c = '\r' then [backslash, 'r']
  else if c.toNat < 0x20 ∨ c.toNat = 0x7f then codeEscape 'x' 2 c.toNat
  else if c.toNat < 0x7f then [c]
  else if printable c then [c]
  else if c.toNat < 0x100 then codeEscape 'x' 2 c.toNat
  else if c.toNat < 0x10000 then codeEscape 'u' 4 c.toNat
  else codeEscape 'U' 8 c.toNat

/-- The literal of a text. -/
def write (printable : Char → Bool) (s : Text) : Text :=
  let q := quoteFor s
  q :: s.flatMap (escape printable q) ++ [q]

/-- The byte as a character of the first 256. -/
def byteChar (b : UInt8) : Char := Char.ofNat b.toNat

/-- The literal of a byte string: the letter `b` and its bytes, those beyond ASCII escaped. -/
def writeBytes (bs : List UInt8) : Text := 'b' :: write (fun _ => false) (bs.map byteChar)

/-- What a reader has seen of an unfinished escape. -/
inductive Pending where
  /-- Nothing. -/
  | none
  /-- The backslash. -/
  | backslash
  /-- An escape that needs `left` more hexadecimal digits after those of value `value`. -/
  | hex (left value : Nat)
  /-- An octal escape that takes up to `left` more digits. -/
  | octal (left value : Nat)
  /-- An escape that needs the name of a character in braces. -/
  | unnamed
  /-- Such an escape after the opening brace, with what has been read of the name, backwards. -/
  | named (part : Text)
  deriving DecidableEq, Repr

/-- The character that a one-letter escape stands for. -/
def letterEscape? (c : Char) : Option Char :=
  if c = backslash ∨ c = single ∨ c = double then some c
  else if c = 'a' then some (Char.ofNat 0x07)
  else if c = 'b' then some (Char.ofNat 0x08)
  else if c = 'f' then some (Char.ofNat 0x0c)
  else if c = 'n' then some '\n'
  else if c = 'r' then some '\r'
  else if c = 't' then some '\t'
  else if c = 'v' then some (Char.ofNat 0x0b)
  else none

/-- Whether the character is an octal digit. -/
def isOctal (c : Char) : Bool := Digits.isDigit c && c.toNat ≤ 55

/-- The character of a code point, where it has one. -/
def charOf? (n : Nat) : Option Char := if n.isValidChar then some (Char.ofNat n) else none

/-- One more character in front of a read text. -/
def push (c : Char) : Option (Text × Text) → Option (Text × Text) :=
  Option.map fun (s, rest) => (c :: s, rest)

/-- The escape that a letter after the backslash starts. Escapes by longer code points and by names
are for texts only. -/
def starts? (wide : Bool) (c : Char) : Option Pending :=
  if c = 'x' then some (.hex 2 0)
  else if isOctal c then some (.octal 2 (Digits.value c))
  else if !wide then .none
  else if c = 'u' then some (.hex 4 0)
  else if c = 'U' then some (.hex 8 0)
  else if c = 'N' then some .unnamed
  else .none

/-- Whether the character may stand between the quotes as itself. -/
def isRaw (wide : Bool) (c : Char) : Bool := !isLineEnd c && (wide || c.toNat < 0x80)

/-- The text up to the closing quote `q`, and what follows the quote. A line break inside the
quotes and an escape that denotes no character are refused; an unknown escape stands for
itself. Where `wide` does not hold the characters are bytes. -/
def readFrom (q : Char) (wide : Bool) : Pending → Text → Option (Text × Text)
  | _, [] => .none
  | .none, c :: r =>
    if c = q then some ([], r)
    else if c = backslash then readFrom q wide .backslash r
    else if isRaw wide c then push c (readFrom q wide .none r)
    else .none
  | .backslash, c :: r =>
    match letterEscape? c, starts? wide c with
    | some d, _ => push d (readFrom q wide .none r)
    | .none, some pending => readFrom q wide pending r
    | .none, .none =>
      if c = '\n' then readFrom q wide .none r
      else if isRaw wide c then push backslash (push c (readFrom q wide .none r))
      else .none
  | .hex left v, c :: r =>
    match Digits.hexValue? c with
    | .none => .none
    | some d =>
      if left ≤ 1 then
        match charOf? (16 * v + d) with
        | .none => .none
        | some e => push e (readFrom q wide .none r)
      else readFrom q wide (.hex (left - 1) (16 * v + d)) r
  | .octal left v, c :: r =>
    if isOctal c && 0 < left then readFrom q wide (.octal (left - 1) (8 * v + Digits.value c)) r
    else
      push (Char.ofNat v)
        (if c = q then some ([], r)
        else if c = backslash then readFrom q wide .backslash r
        else if isRaw wide c then push c (readFrom q wide .none r)
        else .none)
  | .unnamed, c :: r => if c = '\x7b' then readFrom q wide (.named []) r else .none
  | .named part, c :: r =>
    if c = '\x7d' then
      match charNamed? part.reverse with
      | .none => .none
      | some e => push e (readFrom q wide .none r)
    else if c = q ∨ isLineEnd c then .none
    else readFrom q wide (.named (c :: part)) r

/-- The text of a literal whose opening quote `q` has been read, and the rest. -/
def read? (q : Char) (s : Text) : Option (Text × Text) := readFrom q true .none s

/-- The bytes of a literal whose opening quote `q` has been read, and the rest. -/
def readBytes? (q : Char) (s : Text) : Option (List UInt8 × Text) :=
  (readFrom q false .none s).map fun (s, rest) => (s.map fun c => UInt8.ofNat c.toNat, rest)

end Quoted

end Marginalia
