import Marginalia.Render.Shape
import Marginalia.Text.Base64
import Marginalia.Text.Cut
import Marginalia.Yaml.Implicit

/-!
# YAML scalars

A text is written plain where it is read back as that string, between single quotes where it can
be, and between double quotes otherwise. A scalar that may go on over several lines is folded at
the first single space beyond the width; one that is a key on the line of its value is not.

## Main definitions

* `Yaml.Style`, `Yaml.styleOf`: the style a text is written in
* `Yaml.Scalar`: the scalars of a document
* `Yaml.Scalar.write`: a scalar at a column
* `Yaml.Scalar.fitsKey`: whether a scalar may be a key on the line of its value
-/

namespace Marginalia

namespace Yaml

/-- The column beyond which a text is folded. -/
def width : Nat := 80

/-- Whether the character breaks a line. -/
def isBreak (c : Char) : Bool := [0xa, 0x85, 0x2028, 0x2029].contains c.toNat

/-- Whether the character separates an indicator from what follows it. -/
def isGap (c : Char) : Bool := [0x0, 0x20, 0x9, 0xd].contains c.toNat || isBreak c

/-- Whether the character may stand in a plain or single-quoted text. -/
def isOrdinary (c : Char) : Bool :=
  let n := c.toNat
  n == 0xa || (0x20 ≤ n && n ≤ 0x7e) || n == 0x85 || (0xa0 ≤ n && n ≤ 0xd7ff)
    || (0xe000 ≤ n && n ≤ 0xfffd && n != 0xfeff) || (0x10000 ≤ n && n < 0x10ffff)

/-- Whether the text starts with a character that starts something else than a plain text. -/
def startsIndicator : Text → Bool
  | [] => false
  | c :: r =>
    "#,[]\x7b\x7d&*!|>'\"%@\x60".toList.contains c
      || ((c == '?' || c == '-') && (match r with
        | [] => true
        | d :: _ => isGap d))

/-- Whether the text would end a plain text or a document before its own end. -/
def hasIndicator (s : Text) : Bool :=
  startsIndicator s || Text.startsWith "---".toList s || Text.startsWith "...".toList s
    || s.getLast? == some ':'
    || s.anyPair fun c d => (c == ':' && isGap d) || (isGap c && d == '#')

/-- Whether the text holds line breaks. -/
def multiline (s : Text) : Bool := s.any isBreak

/-- Whether a character is a space or breaks a line. -/
def isSpaceOrBreak (c : Char) : Bool := c == ' ' || isBreak c

/-- Whether the text starts or ends with a space or a line break. -/
def blankEnds (s : Text) : Bool := s.head?.any isSpaceOrBreak || s.getLast?.any isSpaceOrBreak

/-- Whether plain style shows the text. -/
def allowsPlain (s : Text) : Bool :=
  s.all isOrdinary && !blankEnds s && !multiline s && !hasIndicator s

/-- Whether single quotes show the text: no character needs an escape, and no space stands beside a
line break. -/
def allowsSingle (s : Text) : Bool :=
  s.all isOrdinary
    && !s.anyPair fun c d => (isBreak c && d == ' ') || (c == ' ' && isBreak d)

/-- The styles of scalars. -/
inductive Style where
  | plain
  | single
  | double
  deriving DecidableEq, Repr

/-- The style a string is written in. -/
def styleOf (s : Text) : Style :=
  if !readsAsOther s && allowsPlain s then .plain
  else if allowsSingle s then .single
  else .double

/-- A new line with an indentation. -/
def newLine (indent : Nat) : Text := '\n' :: Text.spaces indent

/-- The class of a character where runs are concerned. -/
def runClass (c : Char) : Nat := if c = ' ' then 0 else if isBreak c then 1 else 2

/-- The maximal runs of spaces, of line breaks and of other characters. -/
def runs (s : Text) : List Text := s.cutWhere fun c d => runClass c != runClass d

/-- A single quote is written twice between single quotes. -/
def doubleQuotes (s : Text) : Text := s.flatMap fun c => if c = '\'' then [c, c] else [c]

/-- Runs written from a column on; `first` tells that nothing stands before them. A single space
beyond the width becomes a new line, and line breaks are doubled by one and indented. -/
def writeRuns (quoted split : Bool) (indent : Nat) : Nat → Bool → List Text → Text
  | _, _, [] => []
  | column, first, run :: rest =>
    match run.head?.map runClass with
    | some 0 =>
      if run.length = 1 && width < column && split && !first && !rest.isEmpty then
        newLine indent ++ writeRuns quoted split indent indent false rest
      else run ++ writeRuns quoted split indent (column + run.length) false rest
    | some 1 =>
      (if run.head? = some '\n' then ['\n'] else []) ++ run ++ Text.spaces indent
        ++ writeRuns quoted split indent indent false rest
    | _ =>
      let shown := if quoted then doubleQuotes run else run
      shown ++ writeRuns quoted split indent (column + shown.length) false rest

/-- The one-letter escape of a character. -/
def letterEscape? (c : Char) : Option Char :=
  match c.toNat with
  | 0x00 => some '0'
  | 0x07 => some 'a'
  | 0x08 => some 'b'
  | 0x09 => some 't'
  | 0x0a => some 'n'
  | 0x0b => some 'v'
  | 0x0c => some 'f'
  | 0x0d => some 'r'
  | 0x1b => some 'e'
  | 0x22 => some Quoted.double
  | 0x5c => some Quoted.backslash
  | 0x85 => some 'N'
  | 0xa0 => some '_'
  | 0x2028 => some 'L'
  | 0x2029 => some 'P'
  | _ => none

/-- Whether the character stands for itself between double quotes. -/
def isBare (c : Char) : Bool :=
  let n := c.toNat
  (0x20 ≤ n && n ≤ 0x7e && c != Quoted.double && c != Quoted.backslash)
    || (((0xa0 ≤ n && n ≤ 0xd7ff) || (0xe000 ≤ n && n ≤ 0xfffd))
      && n != 0x2028 && n != 0x2029 && n != 0xfeff)

/-- The escape of a character. -/
def escape (c : Char) : Text :=
  match letterEscape? c with
  | some letter => [Quoted.backslash, letter]
  | none =>
    let n := c.toNat
    Quoted.backslash ::
      (if n < 0x100 then 'x' :: Digits.hexWide true 2 n
      else if n < 0x10000 then 'u' :: Digits.hexWide true 4 n
      else 'U' :: Digits.hexWide true 8 n)

/-- The backslash that keeps a space at the start of a line. -/
def guard (c : Option Char) : Text := if c = some ' ' then [Quoted.backslash] else []

/-- Characters between double quotes from a column on. A line may end, with a backslash, after an
escape, before a space, and before a character that stands first on the line or after an escape
(`fresh`); never after the first character or before the last one. -/
def writeDouble (split : Bool) (indent : Nat) : Nat → Bool → Bool → Text → Text
  | _, _, _, [] => []
  | column, fresh, first, c :: r =>
    let inner := split && !first && !r.isEmpty
    if isBare c then
      if inner && (c == ' ' || fresh) && width < column then
        let lead := guard (some c)
        Quoted.backslash :: newLine indent ++ lead
          ++ c :: writeDouble split indent (indent + lead.length + 1) false false r
      else c :: writeDouble split indent (column + 1) false false r
    else
      let shown := escape c
      let column := column + shown.length
      if inner && width + 1 < column then
        let lead := guard r.head?
        shown ++ Quoted.backslash :: newLine indent ++ lead
          ++ writeDouble split indent (indent + lead.length) true false r
      else shown ++ writeDouble split indent column true false r

/-- A string at a column, in its style. -/
def writeText (split : Bool) (indent column : Nat) (s : Text) : Text :=
  match styleOf s with
  | .plain => writeRuns false split indent column true (runs s)
  | .single =>
    '\'' :: writeRuns true split indent (column + 1) true (runs s) ++ ['\'']
  | .double =>
    Quoted.double :: writeDouble split indent (column + 1) true true s ++ [Quoted.double]

/-- The scalars of a document. -/
inductive Scalar where
  | null
  | bool (b : Bool)
  | int (i : Int)
  | float (x : Binary64)
  | text (s : Text)
  | binary (bs : Bytes)
  deriving DecidableEq, Repr

/-- The text of a float: always with a point, and with names for what is no number. -/
def floatText : Binary64 → Text
  | .nan => ".nan".toList
  | .infinite false => ".inf".toList
  | .infinite true => "-.inf".toList
  | x =>
    let s := x.text
    if s.contains '.' then s
    else s.flatMap fun c => if c = 'e' then ['.', '0', 'e'] else [c]

namespace Scalar

/-- The tag of bytes. -/
def binaryTag : Text := "!!binary".toList

/-- The text of a scalar that is no string and no bytes. -/
def word : Scalar → Text
  | null => "null".toList
  | bool b => if b then "true".toList else "false".toList
  | int i => Digits.decimalInt i
  | float x => floatText x
  | text s => s
  | binary _ => []

/-- The scalar at a column, indented where it goes on over several lines. -/
def write (split : Bool) (indent column : Nat) : Scalar → Text
  | text s => writeText split indent column s
  | binary bs =>
    if bs.isEmpty then binaryTag ++ [' ', Quoted.double, Quoted.double]
    else binaryTag ++ [' ', '|'] ++ (Base64.rows bs).flatMap fun row => newLine indent ++ row
  | s => s.word

/-- The length of the name of the scalar's class among the tags. -/
def tagLength : Scalar → Nat
  | null => 6
  | bool _ => 6
  | int _ => 5
  | float _ => 7
  | text _ => 5
  | binary _ => 8

/-- Whether the scalar may be a key on the line of its value: it is neither empty nor of several
lines, and its tag and text are short. -/
def fitsKey : Scalar → Bool
  | binary _ => false
  | s => s.tagLength + s.word.length < 128 && !s.word.isEmpty && !multiline s.word

end Scalar

end Yaml

end Marginalia
