import Marginalia.Text.Quoted
import Marginalia.Value.Basic

/-!
# The tokens of JSON

A JSON text is cut into tokens with their positions. Where no token starts the cutting ends with a
stray character, and where a string is broken it ends with the reason, so that a reader meets the
first fault exactly when it gets there. Strings denote the code units of their escapes; two
surrogates in a row are one character.

## Main definitions

* `Json.Token`: the tokens
* `Json.Complaint`: what can be wrong with a JSON text
* `Json.stringFrom`: the code units of a string, up to its closing quote
* `Json.Numeral`: the numerals, cut as long as possible
* `Json.tokens`: the tokens of a text with their positions

## Main results

* `Json.characters_map_toNat`: the code units of characters denote the characters
-/

namespace Marginalia

namespace Json

/-- What can be wrong with a JSON text. -/
inductive Complaint where
  /-- The text starts with a byte order mark. -/
  | byteOrderMark
  /-- No value starts here. -/
  | value
  /-- No key starts here. -/
  | key
  /-- No colon follows a key. -/
  | colon
  /-- Neither a comma nor a closing bracket follows. -/
  | comma
  /-- Something follows the value. -/
  | extra
  /-- A string does not end. -/
  | unterminated
  /-- A string holds a control character. -/
  | control
  /-- A backslash escapes nothing. -/
  | escape
  /-- Four hexadecimal digits are missing. -/
  | codeEscape
  deriving DecidableEq, Repr

/-- Why a text is no JSON text. -/
inductive ReadFault where
  /-- Something is wrong at a position. -/
  | malformed (complaint : Complaint) (pos : Nat)
  /-- An integer of this many digits is not converted. -/
  | tooLong (digits : Nat)
  deriving DecidableEq, Repr

/-- The tokens of JSON. -/
inductive Token where
  | openArray
  | closeArray
  | openObject
  | closeObject
  | comma
  | colon
  /-- A string. -/
  | text (s : Text)
  /-- A numeral or a word. -/
  | scalar (v : Value)
  /-- An integer of too many digits, or a string that is broken. -/
  | broken (e : ReadFault)
  /-- A character that starts no token. -/
  | stray
  deriving Repr

/-- A token and where it starts. -/
structure Placed where
  /-- The position of its first character. -/
  pos : Nat
  /-- The token. -/
  token : Token
  deriving Repr

/-! ## Strings -/

/-- What a reader has seen of an unfinished escape. -/
inductive Pending where
  /-- Nothing. -/
  | none
  /-- The backslash. -/
  | backslash
  /-- The letter at position `mark` and digits of value `value`; `left` more have to follow. -/
  | code (mark left value : Nat)
  deriving DecidableEq, Repr

/-- The code unit that a one-letter escape stands for. -/
def letterEscape? (c : Char) : Option Nat :=
  if c = Quoted.double ∨ c = Quoted.backslash ∨ c = '/' then some c.toNat
  else if c = 'b' then some 0x08
  else if c = 'f' then some 0x0c
  else if c = 'n' then some 0x0a
  else if c = 'r' then some 0x0d
  else if c = 't' then some 0x09
  else .none

/-- Code units in front of a position and a rest. -/
abbrev Units := List Nat × Nat × Text

/-- One more unit in front. -/
def unit (n : Nat) : Except ReadFault Units → Except ReadFault Units :=
  Except.map fun (units, stop, rest) => (n :: units, stop, rest)

/-- The code units up to the closing quote of the string that starts at `first`, the position after
the quote and what follows. Something has to follow a code escape. -/
def stringFrom (first : Nat) : Nat → Pending → Text → Except ReadFault Units
  | _, .none, [] => .error (.malformed .unterminated first)
  | _, .backslash, [] => .error (.malformed .unterminated first)
  | _, .code mark _ _, [] => .error (.malformed .codeEscape mark)
  | pos, .none, c :: r =>
    if c = Quoted.double then .ok ([], pos + 1, r)
    else if c = Quoted.backslash then stringFrom first (pos + 1) .backslash r
    else if c.toNat < 0x20 then .error (.malformed .control pos)
    else unit c.toNat (stringFrom first (pos + 1) .none r)
  | pos, .backslash, c :: r =>
    if c = 'u' then stringFrom first (pos + 1) (.code pos 4 0) r
    else
      match letterEscape? c with
      | some n => unit n (stringFrom first (pos + 1) .none r)
      | .none => .error (.malformed .escape (pos - 1))
  | pos, .code mark left value, c :: r =>
    match Digits.hexValue? c with
    | .none => .error (.malformed .codeEscape mark)
    | some d =>
      if 1 < left then stringFrom first (pos + 1) (.code mark (left - 1) (16 * value + d)) r
      else if r.isEmpty then .error (.malformed .codeEscape mark)
      else unit (16 * value + d) (stringFrom first (pos + 1) .none r)

/-- Whether the unit is the first half of a pair. -/
def isHigh (n : Nat) : Bool := 0xd800 ≤ n && n < 0xdc00

/-- Whether the unit is the second half of a pair. -/
def isLow (n : Nat) : Bool := 0xdc00 ≤ n && n < 0xe000

/-- What stands for half a pair. -/
def replacement : Char := Char.ofNat 0xfffd

/-- The character of a unit that is half of no pair. -/
def single (n : Nat) : Char := if isHigh n || isLow n then replacement else Char.ofNat n

/-- The characters of units, the first half of a pair having been read where there is one. -/
def charactersFrom : Option Nat → List Nat → Text
  | none, [] => []
  | some _, [] => [replacement]
  | none, n :: rest =>
    if isHigh n then charactersFrom (some n) rest else single n :: charactersFrom none rest
  | some high, n :: rest =>
    if isLow n then
      Char.ofNat (0x10000 + 1024 * (high - 0xd800) + (n - 0xdc00)) :: charactersFrom none rest
    else if isHigh n then replacement :: charactersFrom (some n) rest
    else replacement :: single n :: charactersFrom none rest

/-- The characters of code units. -/
def characters (units : List Nat) : Text := charactersFrom none units

/-- A character is half of no pair. -/
theorem not_isHigh_toNat (c : Char) : isHigh c.toNat = false ∧ isLow c.toNat = false := by
  have h : c.toNat.isValidChar := c.valid
  simp only [isHigh, isLow, Nat.isValidChar] at *
  constructor <;> simp <;> omega

/-- **The code units of characters denote the characters.** -/
theorem characters_map_toNat (s : Text) : characters (s.map Char.toNat) = s := by
  unfold characters
  induction s with
  | nil => rfl
  | cons c s ih =>
    obtain ⟨hh, hl⟩ := not_isHigh_toNat c
    simp [charactersFrom, single, hh, hl, ih]

/-! ## Numerals and words -/

/-- A numeral. -/
structure Numeral where
  /-- Whether a minus sign stands in front. -/
  negative : Bool
  /-- The digits in front of the fraction. -/
  whole : Text
  /-- The point and the digits after it, or nothing. -/
  fraction : Text
  /-- The exponent with its letter, or nothing. -/
  exponent : Text
  deriving DecidableEq, Repr

namespace Numeral

/-- The digits at the front: a zero, or digits that start with another one. -/
def wholeOf (s : Text) : Text :=
  match s with
  | '0' :: _ => ['0']
  | s => s.takeWhile Digits.isDigit

/-- The fraction at the front, if there is one. -/
def fractionOf (s : Text) : Text :=
  match s with
  | '.' :: r =>
    let digits := r.takeWhile Digits.isDigit
    if digits.isEmpty then [] else '.' :: digits
  | _ => []

/-- The sign at the front, if there is one. -/
def signOf (s : Text) : Text :=
  match s with
  | '+' :: _ => ['+']
  | '-' :: _ => ['-']
  | _ => []

/-- The exponent at the front, if there is one. -/
def exponentOf (s : Text) : Text :=
  match s with
  | [] => []
  | c :: r =>
    let digits := (r.drop (signOf r).length).takeWhile Digits.isDigit
    if (c = 'e' ∨ c = 'E') ∧ digits ≠ [] then c :: signOf r ++ digits else []

/-- The numeral at the front of a text. -/
def atFront? (s : Text) : Option Numeral :=
  let (negative, s) := match s with
    | '-' :: r => (true, r)
    | s => (false, s)
  let whole := wholeOf s
  if whole.isEmpty then none
  else
    let s := s.drop whole.length
    let fraction := fractionOf s
    some ⟨negative, whole, fraction, exponentOf (s.drop fraction.length)⟩

/-- The text of a numeral. -/
def text (n : Numeral) : Text :=
  (if n.negative then ['-'] else []) ++ n.whole ++ n.fraction ++ n.exponent

/-- The token of a numeral: an integer where neither a fraction nor an exponent follows. -/
def token (n : Numeral) : Token :=
  if n.fraction.isEmpty && n.exponent.isEmpty then
    if Digits.maxDigits < n.whole.length then .broken (.tooLong n.whole.length)
    else
      let magnitude : Int := Digits.valueOf n.whole
      .scalar (.int (if n.negative then -magnitude else magnitude))
  else .scalar (.float ((Binary64.read? n.text).getD .nan))

end Numeral

/-- The words of JSON and the numbers without a numeral. -/
def wordValues : List (Text × Value) :=
  [("null".toList, .none), ("true".toList, .bool true), ("false".toList, .bool false),
    ("NaN".toList, .float .nan), ("Infinity".toList, .float (.infinite false)),
    ("-Infinity".toList, .float (.infinite true))]

/-- The word at the front of a text. -/
def wordAtFront? (s : Text) : Option (Text × Value) :=
  wordValues.find? fun word => Text.startsWith word.1 s

/-! ## Tokens -/

/-- Whether the character may stand between tokens. -/
def isGap (c : Char) : Bool := c == ' ' || c == '\t' || c == '\n' || c == '\r'

/-- The token of a punctuation mark. -/
def punctuation? (c : Char) : Option Token :=
  if c = '[' then some .openArray
  else if c = ']' then some .closeArray
  else if c = '\x7b' then some .openObject
  else if c = '\x7d' then some .closeObject
  else if c = ',' then some .comma
  else if c = ':' then some .colon
  else none

/-- The string that starts at position `first`, whose quote has been read; nothing is read after a
broken one. -/
def stringToken (first : Nat) (s : Text) : Token × Nat × Text :=
  match stringFrom first (first + 1) .none s with
  | .ok (units, stop, rest) => (.text (characters units), stop, rest)
  | .error e => (.broken e, first + 1, [])

/-- The word or numeral at the front of a text; nothing is read after a stray character. -/
def plainToken (pos : Nat) (s : Text) : Token × Nat × Text :=
  match wordAtFront? s with
  | some (word, v) => (.scalar v, pos + word.length, s.drop word.length)
  | none =>
    match Numeral.atFront? s with
    | some n => (n.token, pos + n.text.length, s.drop n.text.length)
    | none => (.stray, pos, [])

/-- The token that starts with a character at a position, the position after it, and the rest. -/
def next (pos : Nat) (c : Char) (r : Text) : Token × Nat × Text :=
  match punctuation? c with
  | some token => (token, pos + 1, r)
  | none => if c = Quoted.double then stringToken pos r else plainToken pos (c :: r)

/-- The tokens of a text that starts at a position; at most `fuel` characters and tokens are
read. -/
def tokensFrom : Nat → Nat → Text → List Placed
  | 0, _, _ => []
  | _ + 1, _, [] => []
  | fuel + 1, pos, c :: r =>
    if isGap c then tokensFrom fuel (pos + 1) r
    else
      let (token, stop, rest) := next pos c r
      ⟨pos, token⟩ :: tokensFrom fuel stop rest

/-- The tokens of a text with their positions. Every token takes at least one character. -/
def tokens (s : Text) : List Placed := tokensFrom s.length 0 s

end Json

end Marginalia
