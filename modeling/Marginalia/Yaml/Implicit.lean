import Marginalia.Number.Digits
import Marginalia.Text.Cut

/-!
# Plain texts that are no strings

A plain scalar of YAML is read by its form: as none, a truth value, a number, a date, a merge key
or a default value, and as a string only where no other form applies.

## Main definitions

* `Yaml.isNull`, `Yaml.isBool`, `Yaml.isInt`, `Yaml.isFloat`, `Yaml.isTimestamp`: the forms
* `Yaml.readsAsOther`: whether a plain text is read as something else than a string
-/

namespace Marginalia

namespace Yaml

/-- Whether the text is one of the words. -/
def oneOf (words : List String) (s : Text) : Bool := words.any fun w => w.toList = s

/-- The forms of none. -/
def isNull (s : Text) : Bool := s.isEmpty || oneOf ["~", "null", "Null", "NULL"] s

/-- The forms of the truth values. -/
def isBool (s : Text) : Bool :=
  oneOf ["yes", "Yes", "YES", "no", "No", "NO", "true", "True", "TRUE", "false", "False", "FALSE",
    "on", "On", "ON", "off", "Off", "OFF"] s

/-- Whether the character is a digit or a low line. -/
def isDigitOrBar (c : Char) : Bool := Digits.isDigit c || c == '_'

/-- The text without a sign in front. -/
def dropSign : Text → Text
  | [] => []
  | c :: r => if c = '-' ∨ c = '+' then r else c :: r

/-- Digits in groups: a digit, then digits and low lines. -/
def isGrouped : Text → Bool
  | [] => false
  | c :: r => Digits.isDigit c && r.all isDigitOrBar

/-- The minutes or seconds of a number to base sixty. -/
def isSixty : Text → Bool
  | [a] => Digits.isDigit a
  | [a, b] => Digits.isDigit a && a.toNat ≤ 53 && Digits.isDigit b
  | _ => false

/-- A number to base sixty: a first place and at least one more. -/
def isSexagesimal (s : Text) : Bool :=
  match s.splitAt ':' with
  | first :: second :: rest => isGrouped first && (second :: rest).all isSixty
  | _ => false

/-- The first character of a text is not a zero. -/
def noLeadingZero : Text → Bool
  | [] => true
  | c :: _ => c != '0'

/-- A number of base two, eight, ten or sixteen without its sign. -/
def isPlainInt : Text → Bool
  | ['0'] => true
  | '0' :: 'b' :: r => !r.isEmpty && r.all fun c => c == '0' || c == '1' || c == '_'
  | '0' :: 'x' :: r => !r.isEmpty && r.all fun c => (Digits.hexValue? c).isSome || c == '_'
  | '0' :: r => !r.isEmpty && r.all fun c => (Digits.isDigit c && c.toNat ≤ 55) || c == '_'
  | s => isGrouped s

/-- The forms of the integers. -/
def isInt (s : Text) : Bool :=
  let t := dropSign s
  isPlainInt t || (noLeadingZero t && isSexagesimal t)

/-- An exponent, or nothing. -/
def isExponent : Text → Bool
  | [] => true
  | e :: sign :: ds =>
    (e == 'e' || e == 'E') && (sign == '-' || sign == '+') && !ds.isEmpty && ds.all Digits.isDigit
  | _ => false

/-- The part of a text before a point and the part after it. -/
def atPoint? (s : Text) : Option (Text × Text) :=
  match s.dropWhile (· != '.') with
  | [] => none
  | _ :: rest => some (s.takeWhile (· != '.'), rest)

/-- A decimal with digits before the point. -/
def isDecimal (s : Text) : Bool :=
  match atPoint? s with
  | none => false
  | some (whole, rest) =>
    (isGrouped whole && isExponent (rest.dropWhile isDigitOrBar))
      || (isSexagesimal whole && rest.all isDigitOrBar)

/-- A decimal that starts with its point. -/
def isFraction : Text → Bool
  | '.' :: c :: r => Digits.isDigit c && isExponent (r.dropWhile isDigitOrBar)
  | _ => false

/-- The forms of the floats. -/
def isFloat (s : Text) : Bool :=
  isDecimal (dropSign s) || isFraction s || oneOf [".inf", ".Inf", ".INF"] (dropSign s)
    || oneOf [".nan", ".NaN", ".NAN"] s

/-- The rest of a text after at least `low` and at most `high` digits. -/
def digits? (low high : Nat) (s : Text) : Option Text :=
  let n := ((s.take high).takeWhile Digits.isDigit).length
  if low ≤ n then some (s.drop n) else none

/-- The rest of a text after a character. -/
def char? (c : Char) : Text → Option Text
  | [] => none
  | d :: r => if c = d then some r else none

/-- Whether the character is a space or a tab. -/
def isSpaceOrTab (c : Char) : Bool := c == ' ' || c == '\t'

/-- The rest of a text after what stands between a date and a time. -/
def betweenDateAndTime? : Text → Option Text
  | [] => none
  | c :: r =>
    if c = 'T' ∨ c = 't' then some r
    else if isSpaceOrTab c then some (r.dropWhile isSpaceOrTab)
    else none

/-- A time zone, or nothing. -/
def isZone (s : Text) : Bool :=
  match s.dropWhile isSpaceOrTab with
  | [] => s.isEmpty
  | c :: r =>
    if c = 'Z' then r.isEmpty
    else if c = '-' ∨ c = '+' then
      match digits? 1 2 r with
      | some [] => true
      | some (d :: r) => d == ':' && digits? 2 2 r == some []
      | none => false
    else false

/-- The part of a second and a time zone, or nothing. -/
def isSecondPart : Text → Bool
  | [] => true
  | c :: r => if c = '.' then isZone (r.dropWhile Digits.isDigit) else isZone (c :: r)

/-- A date of four, two and two digits. -/
def isDate (s : Text) : Bool :=
  (do digits? 2 2 (← char? '-' (← digits? 2 2 (← char? '-' (← digits? 4 4 s))))) == some []

/-- A date and a time of day. -/
def isMoment (s : Text) : Bool :=
  let rest? : Option Text := do
    let s ← digits? 1 2 (← char? '-' (← digits? 1 2 (← char? '-' (← digits? 4 4 s))))
    let s ← digits? 1 2 (← betweenDateAndTime? s)
    digits? 2 2 (← char? ':' (← digits? 2 2 (← char? ':' s)))
  match rest? with
  | some rest => isSecondPart rest
  | none => false

/-- The forms of dates and times. -/
def isTimestamp (s : Text) : Bool := isDate s || isMoment s

/-- Whether a plain text is read as something else than a string. -/
def readsAsOther (s : Text) : Bool :=
  isNull s || isBool s || isInt s || isFloat s || isTimestamp s || oneOf ["<<", "="] s

end Yaml

end Marginalia
