import Marginalia.Number.Digits
import Marginalia.Text.Blank

/-!
# Binary floating point of double width

A finite number is a sign, a significand and a binary exponent; of the many ways to write one
number only the canonical one is built here, with a significand below 2^53 that is at least 2^52
unless the exponent is the least one. Everything is exact arithmetic on naturals.

## Main definitions

* `Binary64`: the numbers, the infinities and the not-a-number
* `Binary64.ofRatio`: the nearest number to a quotient, a tie going to the even significand
* `Binary64.ofDecimal`: the nearest number to a decimal
* `Binary64.read?`: the number that a text denotes
* `Binary64.equalsInt`: whether the number is a given integer
-/

namespace Marginalia

/-- A floating-point number of double width. -/
inductive Binary64 where
  /-- The number `±significand · 2 ^ exponent`. -/
  | finite (negative : Bool) (significand : Nat) (exponent : Int)
  /-- An infinity. -/
  | infinite (negative : Bool)
  /-- Not a number. -/
  | nan
  deriving DecidableEq, Repr

namespace Binary64

/-- The least binary exponent. -/
def minExponent : Int := -1074

/-- The greatest binary exponent. -/
def maxExponent : Int := 971

/-- The zero of a sign. -/
def zero (negative : Bool) : Binary64 := .finite negative 0 minExponent

/-- The quotient rounded to the nearest natural, a tie going to the even one. -/
def roundDiv (num den : Nat) : Nat :=
  let whole := num / den
  let twice := 2 * (num % den)
  if twice < den then whole
  else if den < twice then whole + 1
  else whole + whole % 2

/-- The quotient `num / den` divided by `2 ^ q`, as a quotient of naturals. -/
def scaleDown (num den : Nat) (q : Int) : Nat × Nat :=
  if 0 ≤ q then (num, den * Nat.pow 2 q.toNat) else (num * Nat.pow 2 (-q).toNat, den)

/-- The canonical form of a rounded significand: a carry moves one place on, and beyond the
greatest exponent the number is infinite. -/
def pack (negative : Bool) (significand : Nat) (q : Int) : Binary64 :=
  let (m, q) :=
    if significand = Nat.pow 2 53 then (Nat.pow 2 52, q + 1) else (significand, q)
  if maxExponent < q then .infinite negative else .finite negative m q

/-- The nearest number to `±num / den`, a tie going to the even significand. -/
def ofRatio (negative : Bool) (num den : Nat) : Binary64 :=
  if num = 0 then zero negative
  else
    let q₀ := max ((num.log2 : Int) - den.log2 - 53) minExponent
    let (a, b) := scaleDown num den q₀
    let q := if Nat.pow 2 53 ≤ a / b then q₀ + 1 else q₀
    let (a, b) := scaleDown num den q
    pack negative (roundDiv a b) q

/-- The nearest number to `±digits · 10 ^ scale`. Exponents that no significand brings back into
the range of the format are decided at once. -/
def ofDecimal (negative : Bool) (digits : Nat) (scale : Int) : Binary64 :=
  let top := scale + ((Digits.decimal digits).length : Int)
  if digits = 0 then zero negative
  else if 400 < top then .infinite negative
  else if top < -400 then zero negative
  else if 0 ≤ scale then ofRatio negative (digits * Nat.pow 10 scale.toNat) 1
  else ofRatio negative digits (Nat.pow 10 (-scale).toNat)

/-- The number of an optional exponent: a sign and digits to the end of the text. -/
def readExponent? : Text → Option Int
  | '-' :: ds =>
    if ds.isEmpty || !ds.all Digits.isDigit then none else some (-(Digits.valueOf ds : Int))
  | '+' :: ds => if ds.isEmpty || !ds.all Digits.isDigit then none else some (Digits.valueOf ds)
  | ds => if ds.isEmpty || !ds.all Digits.isDigit then none else some (Digits.valueOf ds)

/-- The number of an unsigned decimal with optional fraction and exponent. -/
def readDecimal? (negative : Bool) (s : Text) : Option Binary64 :=
  let whole := s.takeWhile Digits.isDigit
  let rest := s.dropWhile Digits.isDigit
  let (fraction, rest) :=
    match rest with
    | '.' :: r => (r.takeWhile Digits.isDigit, r.dropWhile Digits.isDigit)
    | r => ([], r)
  let digits := whole ++ fraction
  if digits.isEmpty then none
  else
    let number := fun (e : Int) =>
      ofDecimal negative (Digits.valueOf digits) (e - (fraction.length : Int))
    match rest with
    | [] => some (number 0)
    | c :: r => if c = 'e' ∨ c = 'E' then (readExponent? r).map number else none

/-- The number of an unsigned text: an infinity, not a number, or a decimal. -/
def readUnsigned? (negative : Bool) (s : Text) : Option Binary64 :=
  let name := String.ofList (s.map Char.toLower)
  if name = "inf" || name = "infinity" then some (.infinite negative)
  else if name = "nan" then some .nan
  else readDecimal? negative s

/-- The number of a text with an optional sign. -/
def readSigned? : Text → Option Binary64
  | '-' :: s => readUnsigned? true s
  | '+' :: s => readUnsigned? false s
  | s => readUnsigned? false s

/-- The number that a text denotes. Blanks may stand around it, its digits may be those of any
script, and low lines may group them. -/
def read? (s : Text) : Option Binary64 :=
  (Digits.ungrouped? Digits.isDigit (s.strip.map Digits.western)).bind readSigned?

/-- A finite number as a fraction; the numbers without one give none. -/
def fraction? : Binary64 → Option (Int × Nat)
  | .finite negative m q =>
    let signed : Int := if negative then -(m : Int) else m
    let up := Nat.pow 2 q.toNat
    some (if 0 ≤ q then (signed * up, 1) else (signed, Nat.pow 2 (-q).toNat))
  | _ => none

/-- Whether the number is the integer. -/
def equalsInt (x : Binary64) (i : Int) : Bool :=
  match x.fraction? with
  | some (num, den) => num == i * den
  | none => false

/-- Whether two numbers are equal; the two zeros are, and what is not a number equals nothing. -/
def equals : Binary64 → Binary64 → Bool
  | .nan, _ => false
  | _, .nan => false
  | .infinite a, .infinite b => a == b
  | .infinite _, _ => false
  | _, .infinite _ => false
  | .finite a m p, .finite b n q => (m == 0 && n == 0) || (a == b && m == n && p == q)

/-- Whether the number is a zero. -/
def isZero : Binary64 → Bool
  | .finite _ m _ => m == 0
  | _ => false

end Binary64

end Marginalia
