import Marginalia.Text.Basic
import Marginalia.Text.Normal.Marks
import Marginalia.Text.Normal.Variants

/-!
# The normal form of names

Two names that differ only in how their letters are made up are one name. The normal form of a name
takes every letter apart, replaces variants by what they stand for, puts the marks on each letter
in order and makes composite letters again. Korean syllables are taken apart and made up by
arithmetic.

## Main definitions

* `Normal.apart`: a character taken apart
* `Normal.ordered`: marks in the order of their classes
* `Normal.together`: a text with composite letters
* `Text.normal`: the normal form

## Main results

* `Text.normal_of_ascii`: a text of ASCII characters is its own normal form
-/

namespace Marginalia

/-- The meanings of single characters. -/
def Variants.singly (v : Variants) : List Text := v.meanings.toList.map fun c => [c]

/-- The meanings between spaces. -/
def Variants.spaced (v : Variants) : List Text := Text.words (· == ' ') v.meanings.toList

/-- The letters and what becomes of them. -/
def Composer.pairs (k : Composer) : List (Char × Char) :=
  k.letters.toList.zip k.composites.toList

/-- The letter and the mark that a composite is made from. -/
def Composer.parts? (k : Composer) (c : Char) : Option (Char × Char) :=
  k.pairs.findSome? fun (letter, composite) =>
    if composite = c then some (letter, Char.ofNat k.mark) else none

namespace Normal

/-- The meaning at the place of a variant among its neighbours. -/
def meaningIn? (table : List Variants) (meanings : Variants → List Text) (n : Nat) : Option Text :=
  table.findSome? fun v => if v.first ≤ n then (meanings v)[n - v.first]? else none

/-- What a variant stands for. -/
def meaning? (c : Char) : Option Text :=
  match meaningIn? simpleVariants Variants.singly c.toNat with
  | some s => some s
  | none => meaningIn? ligatures Variants.spaced c.toNat

/-- The letter and the mark that a composite is made from. -/
def parts? (c : Char) : Option (Char × Char) := composers.findSome? (·.parts? c)

/-- The composite of a letter and a mark. -/
def composite? (letter mark : Char) : Option Char :=
  match composers.find? fun k => k.mark = mark.toNat with
  | none => none
  | some k => k.pairs.lookup letter

/-! ## Korean syllables -/

/-- The first syllable. -/
def syllables : Nat := 0xac00

/-- The first leading consonant. -/
def leads : Nat := 0x1100

/-- The first vowel. -/
def vowels : Nat := 0x1161

/-- The code point before the first trailing consonant. -/
def trails : Nat := 0x11a7

/-- The letters of a syllable: a consonant, a vowel, and a second consonant if there is one. -/
def letters? (c : Char) : Option Text :=
  let k := c.toNat - syllables
  if syllables ≤ c.toNat ∧ k < 19 * 21 * 28 then
    some ([Char.ofNat (leads + k / (21 * 28)), Char.ofNat (vowels + k / 28 % 21)]
      ++ if k % 28 = 0 then [] else [Char.ofNat (trails + k % 28)])
  else none

/-- The syllable of a consonant and a vowel, or of a syllable and a consonant. -/
def syllable? (a b : Char) : Option Char :=
  let k := a.toNat - leads
  let v := b.toNat - vowels
  let t := b.toNat - trails
  let s := a.toNat - syllables
  if leads ≤ a.toNat ∧ k < 19 ∧ vowels ≤ b.toNat ∧ v < 21 then
    some (Char.ofNat (syllables + (k * 21 + v) * 28))
  else if syllables ≤ a.toNat ∧ s < 19 * 21 * 28 ∧ s % 28 = 0 ∧ trails < b.toNat ∧ t < 28 then
    some (Char.ofNat (a.toNat + t))
  else none

/-! ## Taking apart and putting together -/

/-- A character taken apart, through at most `fuel` stages. -/
def apartFrom : Nat → Char → Text
  | 0, c => [c]
  | fuel + 1, c =>
    match letters? c, meaning? c, parts? c with
    | some s, _, _ => s
    | none, some s, _ => s
    | none, none, some (letter, mark) => apartFrom fuel letter ++ apartFrom fuel mark
    | none, none, none => [c]

/-- A character taken apart. No letter carries more than three marks of its own. -/
def apart (c : Char) : Text := apartFrom 4 c

/-- A mark put in front of the marks of a greater class, in a text that is written backwards. -/
def settle (c : Char) : Text → Text
  | [] => [c]
  | d :: rest =>
    if markClass c ≠ 0 ∧ markClass c < markClass d then d :: settle c rest else c :: d :: rest

/-- The text with the marks on each letter in the order of their classes. -/
def ordered (s : Text) : Text := (s.foldl (fun done c => settle c done) []).reverse

/-- The text that follows a letter put together with it. `kept` holds the marks between them that do
not go with the letter, the last one first; `order` is the class of the last one. -/
def togetherFrom (letter : Char) (kept : Text) (order : Nat) : Text → Text
  | [] => letter :: kept.reverse
  | c :: rest =>
    let free := kept.isEmpty || order < markClass c
    match if free then (syllable? letter c).or (composite? letter c) else none with
    | some d => togetherFrom d kept order rest
    | none =>
      if markClass c = 0 then letter :: kept.reverse ++ togetherFrom c [] 0 rest
      else togetherFrom letter (c :: kept) (markClass c) rest

/-- The text with composite letters. -/
def together : Text → Text
  | [] => []
  | c :: rest => togetherFrom c [] 0 rest

end Normal

/-- Whether the character is one of the first 128. -/
def isAscii (c : Char) : Bool := c.toNat < 0x80

/-- The normal form of a name. -/
def Text.normal (s : Text) : Text :=
  if s.all isAscii then s else Normal.together (Normal.ordered (s.flatMap Normal.apart))

/-- **A text of ASCII characters is its own normal form.** -/
theorem Text.normal_of_ascii {s : Text} (h : s.all isAscii = true) : s.normal = s := by
  simp [Text.normal, h]

end Marginalia
