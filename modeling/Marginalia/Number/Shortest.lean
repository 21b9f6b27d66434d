import Marginalia.Number.Binary64

/-!
# The shortest decimal that reads back

Every finite number is the nearest one to all reals of an interval around it. Its shortest decimal
is the point of the coarsest decimal grid with a point in that interval; where two neighbours of
the number both lie in it the nearer one is taken, of two equally near ones the even one.

## Main definitions

* `Shortest.digits`: the digits of the shortest decimal and the scale of the last one
* `DecimalForm`: where positional notation ends and what an exponent looks like
* `Binary64.text`: the text of a number

## Main results

* `Shortest.within_of_search`: the decimal found lies in the interval of the number
-/

namespace Marginalia

namespace Shortest

/-- The interval of the reals that round to a number, in quarters of its last place. -/
structure Interval where
  /-- Four times the number. -/
  centre : Nat
  /-- Its lower end. -/
  low : Nat
  /-- Its upper end. -/
  high : Nat
  /-- Whether the ends belong to it. -/
  closed : Bool
  /-- The binary exponent of the unit. -/
  exponent : Int

/-- The interval of the number `m · 2 ^ q`; below a power of two the grid is finer. -/
def intervalOf (m : Nat) (q : Int) : Interval where
  centre := 4 * m
  low := if m = Nat.pow 2 52 ∧ Binary64.minExponent < q then 4 * m - 1 else 4 * m - 2
  high := 4 * m + 2
  closed := m % 2 == 0
  exponent := q

/-- The factor that brings `4 · c · 10 ^ s` to the common denominator with the interval. -/
def gridFactor (q s : Int) : Nat := 4 * Nat.pow 10 s.toNat * Nat.pow 2 (-q).toNat

/-- The factor that brings quarters of `2 ^ q` to the common denominator with the grid. -/
def unitFactor (q s : Int) : Nat := Nat.pow 2 q.toNat * Nat.pow 10 (-s).toNat

/-- Whether the grid point `c · 10 ^ s` lies in the interval. -/
def within (i : Interval) (s : Int) (c : Nat) : Bool :=
  let point := c * gridFactor i.exponent s
  let low := i.low * unitFactor i.exponent s
  let high := i.high * unitFactor i.exponent s
  if i.closed then low ≤ point && point ≤ high else low < point && point < high

/-- The point of the grid `10 ^ s` that stands for the number, if the grid has one. -/
def pick? (i : Interval) (s : Int) : Option Nat :=
  let centre := i.centre * unitFactor i.exponent s
  let factor := gridFactor i.exponent s
  let c := centre / factor
  match within i s c, within i s (c + 1) with
  | true, true =>
    let below := centre - c * factor
    let above := (c + 1) * factor - centre
    some (if below < above ∨ (below = above ∧ c % 2 = 0) then c else c + 1)
  | true, false => some c
  | false, true => some (c + 1)
  | false, false => none

/-- The first grid with a point, from the scale `s` downwards. -/
def search (i : Interval) : Nat → Int → Option (Nat × Int)
  | 0, _ => none
  | fuel + 1, s =>
    match pick? i s with
    | some c => some (c, s)
    | none => search i fuel (s - 1)

/-- **The decimal found lies in the interval of the number.** -/
theorem within_of_search {i : Interval} {fuel : Nat} {s t : Int} {c : Nat}
    (h : search i fuel s = some (c, t)) : within i t c = true := by
  induction fuel generalizing s with
  | zero => simp [search] at h
  | succ fuel ih =>
    rw [search] at h
    split at h
    · next c' hp =>
      obtain ⟨rfl, rfl⟩ : c' = c ∧ s = t := by simpa using h
      revert hp
      simp only [pick?]
      split <;> simp_all
      next h₁ h₂ => split <;> (rintro rfl; assumption)
      next h₁ h₂ => rintro rfl; assumption
      next h₁ h₂ => rintro rfl; assumption
    · exact ih h

/-- A scale at which the grid is coarser than the number `m · 2 ^ q`. -/
def coarseScale (m : Nat) (q : Int) : Int :=
  -- 30103 / 100000 is the decimal logarithm of two; the two more make up for its error.
  ((q + m.log2) * 30103).fdiv 100000 + 2

/-- The digits without trailing zeros, and the scale of the last one left. -/
def trimZeros : Nat → Nat → Int → Nat × Int
  | 0, c, s => (c, s)
  | fuel + 1, c, s => if c % 10 = 0 ∧ c ≠ 0 then trimZeros fuel (c / 10) (s + 1) else (c, s)

/-- The digits of the shortest decimal of `m · 2 ^ q` and the scale of the last digit. -/
def digits (m : Nat) (q : Int) : Nat × Int :=
  -- A grid of seventeen digits always has a point, so neither bound is ever reached.
  match search (intervalOf m q) 400 (coarseScale m q) with
  | some (c, s) => trimZeros 20 c s
  | none => (0, 0)

end Shortest

/-- The text of a decimal: where positional notation ends and how an exponent is written. -/
structure DecimalForm where
  /-- Positional below ten to this power. -/
  top : Int
  /-- Positional when at most this many zeros follow the point. -/
  zeros : Nat
  /-- The least number of digits of an exponent. -/
  exponentDigits : Nat

/-- Positional from 0.0001 to below 10^16, and exponents of at least two digits. -/
def DecimalForm.standard : DecimalForm := ⟨16, 3, 2⟩

namespace DecimalForm

/-- The sign and the digits of an exponent. -/
def exponentText (form : DecimalForm) (e : Int) : Text :=
  let ds := Digits.decimal e.natAbs
  (if e < 0 then '-' else '+') :: List.replicate (form.exponentDigits - ds.length) '0' ++ ds

/-- Digits with the decimal point after the first `point` of them. -/
def positional (ds : Text) (point : Int) : Text :=
  if point ≤ 0 then '0' :: '.' :: List.replicate (-point).toNat '0' ++ ds
  else if point < ds.length then ds.take point.toNat ++ '.' :: ds.drop point.toNat
  else ds ++ List.replicate (point - ds.length).toNat '0' ++ ['.', '0']

/-- The text of the decimal `0.d₁d₂… · 10 ^ point`. -/
def write (form : DecimalForm) (ds : Text) (point : Int) : Text :=
  if -(form.zeros : Int) ≤ point ∧ point ≤ form.top then positional ds point
  else
    match ds with
    | [] => []
    | d :: rest =>
      d :: (if rest.isEmpty then [] else '.' :: rest) ++ 'e' :: form.exponentText (point - 1)

end DecimalForm

/-- The text of a finite number of positive sign. -/
def Binary64.magnitudeText (m : Nat) (q : Int) : Text :=
  if m = 0 then ['0', '.', '0']
  else
    let (c, s) := Shortest.digits m q
    let ds := Digits.decimal c
    DecimalForm.standard.write ds (ds.length + s)

/-- The text of a number: the shortest decimal that reads back. -/
def Binary64.text : Binary64 → Text
  | .nan => "nan".toList
  | .infinite false => "inf".toList
  | .infinite true => "-inf".toList
  | .finite false m q => magnitudeText m q
  | .finite true m q => '-' :: magnitudeText m q

end Marginalia
