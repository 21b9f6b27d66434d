/-!
# Character classes by their edges

A class of characters is written as the increasing list of the code points at which membership
changes: below the first edge nothing belongs, from the first edge on everything does, from the
second nothing again, and so on.

## Main definitions

* `CharClass`: the edges of a class
* `CharClass.has`: membership of a character

## Main results

* `CharClass.has_ofPairs_cons`: membership in a class given by its intervals, interval by interval
-/

namespace Marginalia

/-- A class of characters, given by the code points at which membership changes. -/
structure CharClass where
  /-- The edges, in increasing order. -/
  edges : List Nat
  deriving DecidableEq, Repr

namespace CharClass

/-- Membership of a code point, when everything so far left it at `inside`. -/
def scan (n : Nat) : Bool → List Nat → Bool
  | inside, [] => inside
  | inside, edge :: rest => if n < edge then inside else scan n (!inside) rest

/-- Whether the character belongs to the class. -/
def has (k : CharClass) (c : Char) : Bool := scan c.toNat false k.edges

@[simp] theorem has_nil (c : Char) : has ⟨[]⟩ c = false := rfl

/-- Below the first edge nothing belongs to the class. -/
theorem has_of_lt {k : CharClass} {edge : Nat} {rest : List Nat} {c : Char}
    (hk : k.edges = edge :: rest) (h : c.toNat < edge) : k.has c = false := by
  simp [has, hk, scan, h]

/-- **Interval by interval**: a character belongs to the class when it lies in the first interval,
or beyond it and in the rest. -/
theorem has_ofPairs_cons (a b : Nat) (rest : List Nat) (c : Char) (h : a ≤ b) :
    has ⟨a :: b :: rest⟩ c =
      (decide (a ≤ c.toNat ∧ c.toNat < b) || (decide (b ≤ c.toNat) && has ⟨rest⟩ c)) := by
  by_cases h1 : c.toNat < a
  · have h2 : c.toNat < b := Nat.lt_of_lt_of_le h1 h
    simp [has, scan, h1, Nat.not_le.2 h1, Nat.not_le.2 h2]
  · by_cases h2 : c.toNat < b
    · simp [has, scan, h1, h2, Nat.not_lt.1 h1]
    · simp [has, scan, h1, h2, Nat.not_lt.1 h2]

end CharClass

end Marginalia
