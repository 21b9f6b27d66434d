import Marginalia.Notice
import Marginalia.Text.Cut

/-!
# Why a text is no program

## Main definitions

* `SyntaxCause`: the causes
* `SyntaxFault`: a cause and the line it is found on
* `SyntaxFault.failure`: the class and the words of a fault in a file
-/

namespace Marginalia

/-- Why a text is no program. -/
inductive SyntaxCause where
  /-- The tokens form no statement. -/
  | malformed
  /-- A text has no closing quote on its line. -/
  | openText
  /-- A run of digits and letters is no numeral of this kind. -/
  | numeral (kind : Text)
  /-- A digit is none in numerals of this kind. -/
  | digit (c : Char) (kind : Text)
  /-- A decimal numeral starts with zeros. -/
  | leadingZeros
  /-- A decimal numeral has more digits than are converted. -/
  | tooManyDigits (count : Nat)
  /-- A character has no place in a program. -/
  | character (c : Char)
  /-- A backslash does not end its line. -/
  | backslash
  /-- A closing bracket has no opening one. -/
  | unmatched (c : Char)
  /-- A closing bracket stands where another one is due; the opening one may stand on another
  line. -/
  | mismatched (c opening : Char) (line? : Option Nat)
  /-- A bracket has no closing one. -/
  | neverClosed (c : Char)
  /-- Too many brackets are open at a time. -/
  | tooNested
  /-- A line is indented more than the one before it. -/
  | unexpectedIndent
  /-- A function that starts on this line has no statements. -/
  | noBlock (line : Nat)
  /-- A line is indented less than the one before it, but not like any around it. -/
  | strayDedent
  /-- How far a line is indented depends on the width of a tab. -/
  | mixedTabs
  /-- Two parameters of a function have one name. -/
  | repeatedParameter (n : Text)
  /-- A value is returned outside functions. -/
  | leaveOutside
  /-- The text holds the character of code point zero. -/
  | nullByte
  deriving DecidableEq, Repr

namespace SyntaxCause

/-- The code point of a character, as messages show it. -/
def codePoint (c : Char) : Text :=
  let n := c.toNat
  let width := if n < 0x10000 then 4 else if n < 0x100000 then 5 else 6
  'U' :: '+' :: Digits.hexWide true width n

/-- A character between single quotes. -/
def quoted (c : Char) : Text := ['\'', c, '\'']

/-- The words for the cause; `line` is the line it is found on. -/
def message (line : Nat) : SyntaxCause → Text
  | malformed => "invalid syntax".toList
  | openText =>
    "unterminated string literal (detected at line ".toList ++ Digits.decimal line ++ [')']
  | numeral kind => "invalid ".toList ++ kind ++ " literal".toList
  | digit c kind =>
    "invalid digit ".toList ++ quoted c ++ " in ".toList ++ kind ++ " literal".toList
  | leadingZeros =>
    ("leading zeros in decimal integer literals are not permitted; "
      ++ "use an 0o prefix for octal integers").toList
  | tooManyDigits count =>
    "Exceeds the limit (4300 digits) for integer string conversion: value has ".toList
      ++ Digits.decimal count
      ++ (" digits; use sys.set_int_max_str_digits() to increase the limit - Consider hexadecimal "
        ++ "for huge integer literals to avoid decimal conversion limits.").toList
  | character c =>
    if isPrintable c then
      "invalid character ".toList ++ quoted c ++ Text.enclosed [' ', '('] [')'] (codePoint c)
    else "invalid non-printable character ".toList ++ codePoint c
  | backslash => "unexpected character after line continuation character".toList
  | unmatched c => "unmatched ".toList ++ quoted c
  | mismatched c opening line? =>
    "closing parenthesis ".toList ++ quoted c ++ " does not match opening parenthesis ".toList
      ++ quoted opening
      ++ (match line? with
        | some n => " on line ".toList ++ Digits.decimal n
        | none => [])
  | neverClosed c => quoted c ++ " was never closed".toList
  | tooNested => "too many nested parentheses".toList
  | unexpectedIndent => "unexpected indent".toList
  | noBlock n =>
    "expected an indented block after function definition on line ".toList ++ Digits.decimal n
  | strayDedent => "unindent does not match any outer indentation level".toList
  | mixedTabs => "inconsistent use of tabs and spaces in indentation".toList
  | repeatedParameter n =>
    "duplicate argument ".toList ++ quote n ++ " in function definition".toList
  | leaveOutside => "'return' outside function".toList
  | nullByte => "source code string cannot contain null bytes".toList

/-- The name of the class of errors that the cause belongs to. -/
def className : SyntaxCause → Text
  | unexpectedIndent | noBlock _ | strayDedent => "IndentationError".toList
  | mixedTabs => "TabError".toList
  | _ => "SyntaxError".toList

end SyntaxCause

/-- A cause and the line it is found on. -/
structure SyntaxFault where
  /-- The line. -/
  line : Nat
  /-- The cause. -/
  cause : SyntaxCause
  deriving DecidableEq, Repr

namespace SyntaxFault

/-- Where the fault is found, as messages show it. A text with a null byte is not looked at. -/
def place (file : Text) (e : SyntaxFault) : Text :=
  if e.cause = .nullByte then []
  else Text.enclosed [' ', '('] [')']
    (file.afterLast '/' ++ ", line ".toList ++ Digits.decimal e.line)

/-- The class and the words of the fault in a file. -/
def failure (file : Text) (e : SyntaxFault) : Failure :=
  ⟨e.cause.className, e.cause.message e.line ++ e.place file⟩

end SyntaxFault

end Marginalia
