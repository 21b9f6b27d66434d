import Marginalia.Text.Utf8

/-!
# Code pages

A code page gives each byte a character. The bytes below the first one that it lists stand for the
characters of their code points, and some bytes stand for none. Where several bytes stand for one
character, the last of them is the one that is written.

## Main definitions

* `CodePage`: code pages
* `CodePage.byte?`: the byte of a character

## Main results

* `CodePage.byte?_of_lt`: characters below the list and not in it keep their code points
-/

namespace Marginalia

/-- A code page. -/
structure CodePage where
  /-- Its names, with spaces between them. -/
  names : String
  /-- The first byte that it lists. -/
  first : Nat
  /-- The characters of that byte and all further ones; the replacement character stands for
  none. -/
  chars : String

namespace CodePage

/-- The character that marks a byte without one. -/
def absent : Char := Char.ofNat 0xfffd

/-- The characters that are listed, the last one first. -/
def backwards (p : CodePage) : Text := p.chars.toList.reverse

/-- The byte of a character. -/
def byte? (p : CodePage) (c : Char) : Option UInt8 :=
  match (if c = absent then none else p.backwards.idxOf? c) with
  | some i => some (UInt8.ofNat (p.first + (p.backwards.length - 1 - i)))
  | none => if c.toNat < p.first then some (UInt8.ofNat c.toNat) else none

/-- **Characters below the list and not in it keep their code points.** -/
theorem byte?_of_lt {p : CodePage} {c : Char} (h : c.toNat < p.first)
    (hc : p.backwards.idxOf? c = none) : p.byte? c = some (UInt8.ofNat c.toNat) := by
  simp [byte?, h, hc]

end CodePage

end Marginalia
