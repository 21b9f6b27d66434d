import Marginalia.Text.Basic

/-!
# Digits

Naturals and integers in decimal and in fixed-width hexadecimal, and the value of a run of decimal
digits. Integers of more than `maxDigits` digits have no decimal text here: both directions are
limited, so that the cost of a conversion stays bounded. Where numbers are read, low lines may
group the digits.

## Main definitions

* `decimal n`, `decimalInt i`: the decimal text
* `valueOf ds`: the value of decimal digits
* `hexWide w n`: the last `w` hexadecimal digits
* `ungrouped? isD s`: a text without the low lines that group its digits
* `western c`: a decimal digit of any script as one of ASCII

## Main results

* `valueOf_decimal`: the digits of a natural have its value
* `decimal_isDigit`: they are decimal digits
-/

namespace Marginalia

namespace Digits

/-- The decimal digit of value `d < 10`. -/
def digit (d : Nat) : Char := Char.ofNat (48 + d)

/-- Whether the character is one of the ten ASCII digits. -/
def isDigit (c : Char) : Bool := 48 ≤ c.toNat && c.toNat ≤ 57

/-- The value of an ASCII digit. -/
def value (c : Char) : Nat := c.toNat - 48

/-- The value of a run of digits read after a number of value `acc`. -/
def valueFrom (acc : Nat) (ds : Text) : Nat := ds.foldl (fun v c => 10 * v + value c) acc

/-- The value of a run of decimal digits. -/
def valueOf (ds : Text) : Nat := valueFrom 0 ds

/-- The digits of `n` in front of `tail`, for `n` below ten to the power of the first argument. -/
def decimalOnto : Nat → Nat → Text → Text
  | 0, _, tail => tail
  | fuel + 1, n, tail =>
    if n < 10 then digit n :: tail else decimalOnto fuel (n / 10) (digit (n % 10) :: tail)

/-- The decimal digits of a natural. -/
def decimal (n : Nat) : Text := decimalOnto (n.log2 + 1) n []

/-- The decimal text of an integer. -/
def decimalInt : Int → Text
  | .ofNat n => decimal n
  | .negSucc n => '-' :: decimal (n + 1)

/-- The greatest number of digits that is converted between text and number. -/
def maxDigits : Nat := 4300

/-- Whether the integer has more digits than are converted. -/
def tooLong (i : Int) : Bool := decide (maxDigits < (decimal i.natAbs).length)

@[simp] theorem valueFrom_nil (acc : Nat) : valueFrom acc [] = acc := rfl

@[simp] theorem valueFrom_cons (acc : Nat) (c : Char) (ds : Text) :
    valueFrom acc (c :: ds) = valueFrom (10 * acc + value c) ds := List.foldl_cons ..

theorem toNat_digit {d : Nat} (h : d < 10) : (digit d).toNat = 48 + d := by
  have table : ∀ d : Fin 10, (digit d).toNat = 48 + d := by decide
  exact table ⟨d, h⟩

@[simp] theorem value_digit {d : Nat} (h : d < 10) : value (digit d) = d := by
  simp [value, toNat_digit h]

theorem isDigit_digit {d : Nat} (h : d < 10) : isDigit (digit d) = true := by
  simp only [isDigit, toNat_digit h, Bool.and_eq_true, decide_eq_true_eq]
  omega

theorem valueFrom_decimalOnto (fuel n : Nat) (tail : Text) (h : n < Nat.pow 10 fuel) :
    valueFrom 0 (decimalOnto fuel n tail) = valueFrom n tail := by
  induction fuel generalizing n tail with
  | zero =>
    have : n = 0 := by simpa using h
    simp [decimalOnto, this]
  | succ fuel ih =>
    by_cases hn : n < 10
    · simp [decimalOnto, hn, value_digit hn]
    · have hlt : n / 10 < Nat.pow 10 fuel := by
        rw [Nat.div_lt_iff_lt_mul (by decide)]
        simpa [Nat.pow_succ] using h
      rw [decimalOnto, if_neg hn, ih _ _ hlt]
      simp only [valueFrom_cons, value_digit (Nat.mod_lt n (by decide))]
      congr 1
      omega

theorem lt_pow_log2 (n : Nat) : n < Nat.pow 10 (n.log2 + 1) :=
  Nat.lt_of_lt_of_le Nat.lt_log2_self (Nat.pow_le_pow_left (by decide) _)

/-- **The digits of a natural have its value.** -/
theorem valueOf_decimal (n : Nat) : valueOf (decimal n) = n := by
  simp [valueOf, decimal, valueFrom_decimalOnto _ _ _ (lt_pow_log2 n)]

theorem decimalOnto_isDigit (fuel n : Nat) (tail : Text) (h : ∀ c ∈ tail, isDigit c = true) :
    ∀ c ∈ decimalOnto fuel n tail, isDigit c = true := by
  induction fuel generalizing n tail with
  | zero => simpa [decimalOnto] using h
  | succ fuel ih =>
    by_cases hn : n < 10
    · simpa [decimalOnto, hn] using ⟨isDigit_digit hn, h⟩
    · rw [decimalOnto, if_neg hn]
      exact ih _ _ (by simpa using ⟨isDigit_digit (Nat.mod_lt n (by decide)), h⟩)

/-- **The text of a natural consists of decimal digits.** -/
theorem decimal_isDigit (n : Nat) : ∀ c ∈ decimal n, isDigit c = true :=
  decimalOnto_isDigit _ _ _ (by simp)

theorem decimalOnto_ne_nil (fuel n : Nat) (tail : Text) (h : tail ≠ [] ∨ 0 < fuel) :
    decimalOnto fuel n tail ≠ [] := by
  induction fuel generalizing n tail with
  | zero => simpa [decimalOnto] using h
  | succ fuel ih =>
    by_cases hn : n < 10
    · simp [decimalOnto, hn]
    · rw [decimalOnto, if_neg hn]
      exact ih _ _ (.inl (by simp))

/-- A natural has at least one digit. -/
theorem decimal_ne_nil (n : Nat) : decimal n ≠ [] := decimalOnto_ne_nil _ _ _ (.inr (by simp))

/-- A natural starts with a digit. -/
theorem exists_decimal_eq_cons (n : Nat) : ∃ d ds, decimal n = d :: ds ∧ isDigit d = true := by
  obtain ⟨d, ds, hd⟩ := List.exists_cons_of_ne_nil (decimal_ne_nil n)
  exact ⟨d, ds, hd, decimal_isDigit n d (by simp [hd])⟩

theorem ne_of_isDigit {c d : Char} (hc : isDigit c = true) (hd : isDigit d = false) : c ≠ d := by
  rintro rfl
  simp [hc] at hd

/-- The digits of a number other than zero start with another digit. -/
theorem head?_decimalOnto {fuel n : Nat} (tail : Text) (hn : n ≠ 0)
    (hf : n < Nat.pow 10 fuel) :
    (decimalOnto fuel n tail).head? ≠ some '0' := by
  induction fuel generalizing n tail with
  | zero => exact absurd (by simpa using hf) hn
  | succ fuel ih =>
    by_cases hlt : n < 10
    · rw [decimalOnto, if_pos hlt, List.head?_cons]
      intro h
      have hz := congrArg Char.toNat (Option.some.inj h)
      rw [toNat_digit hlt] at hz
      exact hn (by simpa using hz)
    · rw [decimalOnto, if_neg hlt]
      refine ih _ (by omega) ?_
      rw [Nat.div_lt_iff_lt_mul (by decide)]
      simpa [Nat.pow_succ] using hf

theorem head?_decimal {n : Nat} (hn : n ≠ 0) : (decimal n).head? ≠ some '0' :=
  head?_decimalOnto [] hn (lt_pow_log2 n)

/-- The hexadecimal digit of value `d < 16`. -/
def hexDigit (upper : Bool) (d : Nat) : Char :=
  if d < 10 then digit d else Char.ofNat ((if upper then 55 else 87) + d)

/-- The last `w` hexadecimal digits of `n`. -/
def hexWide (upper : Bool) : Nat → Nat → Text
  | 0, _ => []
  | w + 1, n => hexWide upper w (n / 16) ++ [hexDigit upper (n % 16)]

@[simp] theorem length_hexWide (upper : Bool) (w n : Nat) : (hexWide upper w n).length = w := by
  induction w generalizing n with
  | zero => rfl
  | succ w ih => simp [hexWide, ih]

/-- The value of a hexadecimal digit of either case. -/
def hexValue? (c : Char) : Option Nat :=
  let n := c.toNat
  if 48 ≤ n ∧ n ≤ 57 then some (n - 48)
  else if 97 ≤ n ∧ n ≤ 102 then some (n - 87)
  else if 65 ≤ n ∧ n ≤ 70 then some (n - 55)
  else none

/-- A hexadecimal digit reads back. -/
theorem hexValue?_hexDigit (upper : Bool) {d : Nat} (h : d < 16) :
    hexValue? (hexDigit upper d) = some d := by
  have all : ∀ d, d < 16 → hexValue? (hexDigit upper d) = some d := by cases upper <;> decide
  exact all d h

/-! ## Digits as they are read -/

/-- A text without the low lines that group its digits; `after` tells that a digit stands in front.
A low line that does not stand between two digits is refused. -/
def ungroupedFrom? (isD : Char → Bool) : Bool → Text → Option Text
  | _, [] => some []
  | after, c :: r =>
    if c = '_' then (if after && r.head?.any isD then ungroupedFrom? isD false r else none)
    else (ungroupedFrom? isD (isD c) r).map (c :: ·)

/-- A text without the low lines that group its digits. -/
def ungrouped? (isD : Char → Bool) (s : Text) : Option Text := ungroupedFrom? isD false s

/-- The code points of the zeros of all scripts with decimal digits. -/
def zeros : List Nat :=
  [0x30, 0x660, 0x6f0, 0x7c0, 0x966, 0x9e6, 0xa66, 0xae6, 0xb66, 0xbe6, 0xc66, 0xce6, 0xd66, 0xde6,
    0xe50, 0xed0, 0xf20, 0x1040, 0x1090, 0x17e0, 0x1810, 0x1946, 0x19d0, 0x1a80, 0x1a90, 0x1b50,
    0x1bb0, 0x1c40, 0x1c50, 0xa620, 0xa8d0, 0xa900, 0xa9d0, 0xa9f0, 0xaa50, 0xabf0, 0xff10, 0x104a0,
    0x10d30, 0x11066, 0x110f0, 0x11136, 0x111d0, 0x112f0, 0x11450, 0x114d0, 0x11650, 0x116c0,
    0x11730, 0x118e0, 0x11950, 0x11c50, 0x11d50, 0x11da0, 0x16a60, 0x16ac0, 0x16b50, 0x1d7ce,
    0x1d7d8, 0x1d7e2, 0x1d7ec, 0x1d7f6, 0x1e140, 0x1e2f0, 0x1e950, 0x1fbf0]

/-- A decimal digit of any script as one of ASCII; other characters stay. -/
def western (c : Char) : Char :=
  match zeros.find? fun z => z ≤ c.toNat && c.toNat < z + 10 with
  | some z => digit (c.toNat - z)
  | none => c

/-- A text without low lines has none to lose. -/
theorem ungrouped?_of_notMem (isD : Char → Bool) {s : Text} (h : '_' ∉ s) :
    ungrouped? isD s = some s := by
  have go : ∀ after, ungroupedFrom? isD after s = some s := by
    induction s with
    | nil => intro after; rfl
    | cons c r ih =>
      intro after
      have hc : c ≠ '_' := fun hc => h (by simp [hc])
      simp [ungroupedFrom?, hc, ih (fun hr => h (by simp [hr]))]
  exact go false

end Digits

end Marginalia
