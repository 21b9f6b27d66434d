import Marginalia.Text.Basic

/-!
# Blank characters

The characters that separate words: the 25 white-space characters of Unicode 14 and the four
information separators U+001C to U+001F.

## Main definitions

* `isBlank`: the class
* `isInlineBlank`: the blanks that end no line
* `Text.strip`: the text without blanks at its ends

## Main results

* `isBlank_of_isWhitespace`: every white-space character of the core library is blank
-/

namespace Marginalia

/-- The code points of the blank characters. -/
def blankCodes : List Nat :=
  [0x9, 0xa, 0xb, 0xc, 0xd, 0x1c, 0x1d, 0x1e, 0x1f, 0x20, 0x85, 0xa0, 0x1680, 0x2000, 0x2001,
    0x2002, 0x2003, 0x2004, 0x2005, 0x2006, 0x2007, 0x2008, 0x2009, 0x200a, 0x2028, 0x2029, 0x202f,
    0x205f, 0x3000]

/-- Whether the character separates words. -/
def isBlank (c : Char) : Bool := blankCodes.contains c.toNat

/-- Whether the character ends a line: a line feed or a carriage return. -/
def isLineEnd (c : Char) : Bool := c == '\n' || c == '\r'

/-- Whether the character is a blank that ends no line. -/
def isInlineBlank (c : Char) : Bool := isBlank c && !isLineEnd c

/-- **Every white-space character of the core library is blank.** -/
theorem isBlank_of_isWhitespace {c : Char} (h : c.isWhitespace = true) : isBlank c = true := by
  simp only [Char.isWhitespace, Bool.or_eq_true, decide_eq_true_eq] at h
  rcases h with ((h | h) | h) | h <;> subst h <;> decide

theorem isBlank_space : isBlank ' ' = true := by decide

theorem isInlineBlank_lf : isInlineBlank '\n' = false := by decide

theorem isInlineBlank_cr : isInlineBlank '\r' = false := by decide

/-- A character that ends a line is blank. -/
theorem isBlank_of_isLineEnd {c : Char} (h : isLineEnd c = true) : isBlank c = true := by
  simp only [isLineEnd, Bool.or_eq_true, beq_iff_eq] at h
  rcases h with rfl | rfl <;> decide

/-- The text without blanks at its ends. -/
def Text.strip (s : Text) : Text := s.trim isBlank

end Marginalia
