import Marginalia.Program.SyntaxFault
import Marginalia.Text.NameChar
import Marginalia.Text.Normal
import Marginalia.Text.Quoted

/-!
# The tokens of a program line

A name is known by its normal form, while a keyword has to be spelled as it is. A text stands
between single quotes of either kind: three of them in a row start no text. A line is read together
with the brackets that are open, because they have to match.

## Main definitions

* `Program.Token`: keywords, names, numerals, texts and marks
* `Program.numeral`: the token of a numeral
* `Program.Nesting`: the open brackets
* `Program.tokens`: the tokens of a line, up to a comment
* `Program.nesting`: how many brackets are open at a time
-/

namespace Marginalia

namespace Program

/-- The tokens of a program line. -/
inductive Token where
  | keyword (s : Text)
  | name (s : Text)
  | numeral (n : Nat)
  | decimal (x : Binary64)
  | text (s : Text)
  | bytes (bs : Bytes)
  | mark (c : Char)
  deriving DecidableEq, Repr

/-- The words that are no names. -/
def keywords : List Text :=
  ["False", "None", "True", "and", "as", "assert", "async", "await", "break", "class", "continue",
    "def", "del", "elif", "else", "except", "finally", "for", "from", "global", "if", "import",
    "in", "is", "lambda", "nonlocal", "not", "or", "pass", "raise", "return", "try", "while",
    "with", "yield"].map String.toList

/-- The token of a word. -/
def word (s : Text) : Token := if keywords.contains s then .keyword s else .name s.normal

/-- Whether the character may stand between tokens. -/
def isGap (c : Char) : Bool := c == ' ' || c == '\t' || c.toNat == 0x0c

/-- Whether the character starts a text. -/
def isQuote (c : Char) : Bool := c == Quoted.single || c == Quoted.double

/-! ## Numerals -/

/-- Whether the character may stand in a numeral: a letter or a digit of ASCII, or a low line. -/
def inNumeral (c : Char) : Bool := c.isAlphanum || c == '_'

/-- The characters of a numeral and the rest of the text. A point may stand among them while
`point` holds, and a sign where `sign` holds, which is after the letter of an exponent. -/
def numeralRun (hex : Bool) : Bool → Bool → Text → Text × Text
  | _, _, [] => ([], [])
  | point, sign, c :: r =>
    let exponent := !hex && (c == 'e' || c == 'E')
    if inNumeral c then
      let (run, rest) := numeralRun hex (point && !exponent) exponent r
      (c :: run, rest)
    else if (point && c == '.') || (sign && (c == '+' || c == '-')) then
      let (run, rest) := numeralRun hex false false r
      (c :: run, rest)
    else ([], c :: r)

/-- Whether a numeral starts with a zero and the letter of a base. -/
def hasBase : Text → Bool
  | '0' :: c :: _ => "xXoObB".toList.contains c
  | _ => false

/-- The value of digits in a base. -/
def valueIn (base : Nat) (ds : Text) : Nat :=
  ds.foldl (fun n c => base * n + (Digits.hexValue? c).getD 0) 0

/-- The numeral of digits in a base, where the class of the digits has a name. -/
def based (base : Nat) (kind : Text) (ds : Text) : Except SyntaxCause Token :=
  let isD := fun c => (Digits.hexValue? c).any (· < base)
  let ds := if ds.head? = some '_' then ds.tail else ds
  match ds.find? fun c => c != '_' && !isD c, Digits.ungrouped? isD ds with
  | some c, _ => .error (if Digits.isDigit c then .digit c kind else .numeral kind)
  | none, none => .error (.numeral kind)
  | none, some [] => .error (.numeral kind)
  | none, some digits => .ok (.numeral (valueIn base digits))

/-- The numeral of decimal digits, of which only zero starts with a zero. -/
def whole (ds : Text) : Except SyntaxCause Token :=
  let n := Digits.valueOf ds
  if ds.head? = some '0' ∧ n ≠ 0 then .error .leadingZeros
  else if Digits.maxDigits < ds.length then .error (.tooManyDigits ds.length)
  else .ok (.numeral n)

/-- The name of decimal numerals. -/
def decimalKind : Text := "decimal".toList

/-- The token of a numeral. -/
def numeral (run : Text) : Except SyntaxCause Token :=
  match run with
  | '0' :: c :: ds =>
    if c = 'x' ∨ c = 'X' then based 16 "hexadecimal".toList ds
    else if c = 'o' ∨ c = 'O' then based 8 "octal".toList ds
    else if c = 'b' ∨ c = 'B' then based 2 "binary".toList ds
    else plain run
  | _ => plain run
where
  /-- The token of a numeral without the letter of a base. -/
  plain (run : Text) : Except SyntaxCause Token :=
    match Digits.ungrouped? Digits.isDigit run with
    | none => .error (.numeral decimalKind)
    | some s =>
      if s.all Digits.isDigit then whole s
      else
        match Binary64.readDecimal? false s with
        | some x => .ok (.decimal x)
        | none => .error (.numeral decimalKind)

/-! ## Lines -/

/-- The rest of a text after a closing quote, if there is one. -/
def closes (q : Char) : Text → Bool
  | [] => false
  | c :: r =>
    if c = q then true
    else if c = Quoted.backslash then
      match r with
      | [] => false
      | _ :: r => closes q r
    else closes q r

/-- Whether two more quotes stand behind a quote. -/
def isTriple (q : Char) : Text → Bool
  | c :: d :: _ => c == q && d == q
  | _ => false

/-- A literal that has been read, or why there is none. -/
def literal {α : Type} (q : Char) (r : Text) (token : α → Token) (read? : Option (α × Text)) :
    Except SyntaxCause (Token × Text) :=
  if isTriple q r then .error .malformed
  else
    match read? with
    | some (a, rest) => .ok (token a, rest)
    | none => .error (if closes q r then .malformed else .openText)

/-- The token of a word, or the literal that it introduces, and the rest. -/
def wordOrLiteral (s : Text) (rest : Text) : Except SyntaxCause (Token × Text) :=
  match rest with
  | q :: r =>
    if isQuote q ∧ (s = ['b'] ∨ s = ['B']) then literal q r .bytes (Quoted.readBytes? q r)
    else if isQuote q ∧ (s = ['u'] ∨ s = ['U']) then literal q r .text (Quoted.read? q r)
    else .ok (word s, rest)
  | [] => .ok (word s, [])

/-- Whether the character may be a mark: one of ASCII that is shown. -/
def isMark (c : Char) : Bool := 0x20 < c.toNat && c.toNat < 0x7f

/-- The first token of a text that starts with a character, and the rest. -/
def next (c : Char) (r : Text) : Except SyntaxCause (Token × Text) :=
  if isQuote c then literal c r .text (Quoted.read? c r)
  else if Digits.isDigit c ∨ (c = '.' ∧ r.head?.any Digits.isDigit) then
    let (run, rest) := numeralRun (hasBase (c :: r)) true false (c :: r)
    (numeral run).map (·, rest)
  else if isNameStart c then
    wordOrLiteral (c :: r.takeWhile isNameChar) (r.dropWhile isNameChar)
  else if c = Quoted.backslash then .error .backslash
  else if isMark c then .ok (.mark c, r)
  else .error (.character c)

/-- The open brackets, the innermost first, and the lines they stand on. -/
abbrev Nesting := List (Char × Nat)

/-- The bracket that closes another one. -/
def closing? (c : Char) : Option Char :=
  if c = '(' then some ')'
  else if c = '[' then some ']'
  else if c = '\x7b' then some '\x7d'
  else none

/-- Whether the character is a closing bracket. -/
def isClosing (c : Char) : Bool := c == ')' || c == ']' || c == '\x7d'

/-- The open brackets after a token on a line. -/
def Nesting.after (opened : Nesting) (line : Nat) : Token → Except SyntaxCause Nesting
  | .mark c =>
    if (closing? c).isSome then .ok ((c, line) :: opened)
    else if isClosing c then
      match opened with
      | [] => .error (.unmatched c)
      | (o, n) :: rest =>
        if closing? o = some c then .ok rest
        else .error (.mismatched c o (if n = line then none else some n))
    else .ok opened
  | _ => .ok opened

/-- The tokens of a line up to a comment, and the brackets that are open afterwards; at most `fuel`
characters and tokens are read. -/
def tokensFrom (line : Nat) : Nat → Nesting → Text → Except SyntaxCause (List Token × Nesting)
  | _, opened, [] => .ok ([], opened)
  | 0, opened, _ :: _ => .ok ([], opened)
  | fuel + 1, opened, c :: r =>
    if isGap c then tokensFrom line fuel opened r
    else if c = '#' then .ok ([], opened)
    else
      match next c r with
      | .error e => .error e
      | .ok (token, rest) =>
        match opened.after line token with
        | .error e => .error e
        | .ok opened =>
          (tokensFrom line fuel opened rest).map fun (tokens, opened) => (token :: tokens, opened)

/-- The tokens of a line up to a comment, and the brackets that are open afterwards. Every token
takes at least one character. -/
def tokens (line : Nat) (opened : Nesting) (s : Text) : Except SyntaxCause (List Token × Nesting) :=
  tokensFrom line s.length opened s

/-- The greatest number of brackets that are open at a time among some tokens, in front of which
some brackets are open. -/
def nesting (opened : Nat) : List Token → Nat
  | [] => opened
  | .mark c :: ts =>
    if (closing? c).isSome then nesting (opened + 1) ts
    else if isClosing c then max opened (nesting (opened - 1) ts)
    else nesting opened ts
  | _ :: ts => nesting opened ts

/-- The greatest number of brackets that may be open at a time in a program. -/
def maxNesting : Nat := 200

end Program

end Marginalia
