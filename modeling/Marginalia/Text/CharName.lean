import Marginalia.Number.Digits
import Marginalia.Text.CharName.Alias
import Marginalia.Text.CharName.Part1
import Marginalia.Text.CharName.Part2
import Marginalia.Text.CharName.Part3
import Marginalia.Text.CharName.Part4
import Marginalia.Text.CharName.Part5

/-!
# Characters by their names

The characters that the names of Unicode 14 stand for. Names that follow a rule, those of
ideographs and of Korean syllables, are computed. All others are listed in the order of their
characters, each by what it does not share with the name before it: a record holds the number of
shared characters and the rest of the name, and a record that starts with an equals sign holds the
code point of the next name, where it is not the next code point. In the rest of a name a sign
stands for each of the pieces that occur often.

## Main definitions

* `CharName.seek`: the character of a name in a packed list
* `charNamed?`: the character of a name
-/

namespace Marginalia

namespace CharName

/-- The signs that stand for pieces. -/
def signs : String := "abcdefghijklmnopqrstuvwxyz!$%&*+.:;<>?^_|~"

/-- The pieces that the signs stand for. -/
def pieces : List String :=
  ["L LETTER ", " WITH ", "CAPITA", "AR", "AL", "IGHT", " FORM", "IN", "LE", "ER", "AN", "ON", " S",
   " ABOVE", "ED ", " ISOLATED", "EN", "OW", "TI", "E ", "HA", "RE", "IGN", "TH", "T ", "RA", "S ",
   "LA", "OU", "TA", "HE", "OR", "D ", "SI", "CIRC", "DI", "YMBOL", "SM", "RO", "ME", "HI", "MA"]

/-- What a character of a packed name stands for. -/
def piece (c : Char) : Text :=
  match (signs.toList.zip pieces).lookup c with
  | some s => s.toList
  | none => [c]

/-- The number that a character stands for: digits, capitals and small letters count up. -/
def count (c : Char) : Nat :=
  if Digits.isDigit c then c.toNat - 48
  else if c.toNat < 97 then c.toNat - 55
  else c.toNat - 61

/-- The value of hexadecimal digits. -/
def codeOf (s : Text) : Nat := s.foldl (fun n c => 16 * n + (Digits.hexValue? c).getD 0) 0

/-- The character of a name among packed names. `code` is the code point of the next name, `before`
the name before it, and `record` what has been read of a record, backwards. -/
def seek (name : Text) (code : Nat) (before record : Text) : Text → Option Char
  | [] => none
  | c :: rest =>
    if c ≠ ',' then seek name code before (c :: record) rest
    else
      match record.reverse with
      | '=' :: digits => seek name (codeOf digits) before [] rest
      | shared :: packed =>
        let this := before.take (count shared) ++ packed.flatMap piece
        if this = name then some (Char.ofNat code) else seek name (code + 1) this [] rest
      | [] => seek name code before [] rest

/-- The character of a name in a packed list, which is cut into rows anywhere. -/
def inList? (name : Text) (rows : List String) : Option Char :=
  seek name 0 [] [] (rows.flatMap String.toList)

/-! ## Names that follow a rule -/

/-- Characters whose names end in their code points. -/
structure Family where
  /-- What the names start with. -/
  lead : String
  /-- The first and the last code point of each run of them. -/
  spans : List (Nat × Nat)

/-- The unified ideographs. -/
def unified : Family :=
  ⟨"CJK UNIFIED IDEOGRAPH-",
    [(0x3400, 0x4dbf), (0x4e00, 0x9fff), (0x20000, 0x2a6df), (0x2a700, 0x2b738),
      (0x2b740, 0x2b81d), (0x2b820, 0x2cea1), (0x2ceb0, 0x2ebe0), (0x30000, 0x3134a)]⟩

/-- The other families. -/
def families : List Family :=
  [⟨"CJK COMPATIBILITY IDEOGRAPH-", [(0xf900, 0xfa6d), (0xfa70, 0xfad9), (0x2f800, 0x2fa1d)]⟩,
    ⟨"KHITAN SMALL SCRIPT CHARACTER-", [(0x18b00, 0x18cd5)]⟩,
    ⟨"NUSHU CHARACTER-", [(0x1b170, 0x1b2fb)]⟩]

/-- The character of the family whose name ends in some digits. -/
def Family.member? (family : Family) (digits : Text) : Option Char :=
  let n := codeOf digits
  if (digits.length = 4 ∨ digits.length = 5)
      ∧ digits.all (fun c => (Digits.hexValue? c).isSome && !c.isLower)
      ∧ family.spans.any (fun (first, last) => first ≤ n && n ≤ last) then
    some (Char.ofNat n)
  else none

/-- The character of a name in the family. -/
def Family.find? (family : Family) (name : Text) : Option Char :=
  (Text.after? family.lead.toList name).bind family.member?

/-- The names of leading consonants. -/
def leadNames : List String :=
  ["G", "GG", "N", "D", "DD", "R", "M", "B", "BB", "S", "SS", "", "J", "JJ", "C", "K", "T", "P",
    "H"]

/-- The names of vowels. -/
def vowelNames : List String :=
  ["A", "AE", "YA", "YAE", "EO", "E", "YEO", "YE", "O", "WA", "WAE", "OE", "YO", "U", "WEO", "WE",
    "WI", "YU", "EU", "YI", "I"]

/-- The names of trailing consonants. -/
def trailNames : List String :=
  ["", "G", "GG", "GS", "N", "NJ", "NH", "D", "L", "LG", "LM", "LB", "LS", "LT", "LP", "LH", "M",
    "B", "BS", "S", "SS", "NG", "J", "C", "K", "T", "P", "H"]

/-- What the names of Korean syllables start with. -/
def syllableLead : Text := "HANGUL SYLLABLE ".toList

/-- The name of a Korean syllable without its lead. -/
def syllableName (k : Nat) : Text :=
  let part := fun (names : List String) (i : Nat) => ((names[i]?).getD "").toList
  part leadNames (k / 588) ++ part vowelNames (k / 28 % 21) ++ part trailNames (k % 28)

/-- The Korean syllable of a name without its lead. -/
def syllable? (name : Text) : Option Char :=
  ((List.range 11172).find? fun k => syllableName k = name).map fun k => Char.ofNat (0xac00 + k)

/-- The character of a name that is listed. -/
def listed? (name : Text) : Option Char :=
  [part1, part2, part3, part4, part5, aliases].findSome? (inList? name)

end CharName

/-- The character of a name. Only the names of unified ideographs and of Korean syllables have to be
written in capitals. -/
def charNamed? (name : Text) : Option Char :=
  match Text.after? CharName.syllableLead name, Text.after? CharName.unified.lead.toList name with
  | some rest, _ => CharName.syllable? rest
  | none, some digits => CharName.unified.member? digits
  | none, none =>
    let capital := name.map Char.toUpper
    match CharName.families.findSome? (·.find? capital) with
    | some c => some c
    | none => CharName.listed? capital

end Marginalia
