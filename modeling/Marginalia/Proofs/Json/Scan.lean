import Marginalia.Json.Reader

/-!
# Reading along a text

A JSON text is cut into tokens as it is read, so that what a reader makes of a text is a matter of
the characters alone, whatever position they stand at. A piece of text takes a reader from one state
to another; pieces are put together where the first of them ends before the second one starts.

## Main definitions

* `Json.tokensAt`: the tokens of a text that starts at a position
* `Json.Reader.scan`: a reader after a text
* `Json.Passes`: a piece of text that takes a reader to another one

## Main results

* `Json.tokensFrom_eq`: the fuel of the tokens does not matter
* `Json.Reader.scan_cons_eq`: reading one token
* `Json.Passes.append`: pieces are put together
-/

namespace Marginalia

namespace Json

variable {fuel first pos : Nat} {c : Char} {r s t u : Text}

/-! ## Tokens without fuel -/

theorem unit_eq_ok_iff {n : Nat} {x : Except ReadFault Units} {y : Units} :
    unit n x = .ok y ↔ ∃ z : Units, x = .ok z ∧ y = (n :: z.1, z.2) := by
  cases x with
  | error e => simp [unit, Except.map]
  | ok z => simp [unit, Except.map, eq_comm]

/-- What follows a string is no longer than the text it starts. -/
theorem length_of_stringFrom {pending : Pending} {units : List Nat} {stop : Nat}
    (h : stringFrom first pos pending s = .ok (units, stop, r)) : r.length ≤ s.length := by
  induction s generalizing pos pending units with
  | nil => cases pending <;> cases h
  | cons c s ih =>
    have hunit : ∀ {n : Nat}, unit n (stringFrom first (pos + 1) .none s) = .ok (units, stop, r) →
        r.length ≤ s.length := fun h => by
      obtain ⟨⟨units, stop, r⟩, hz, heq⟩ := unit_eq_ok_iff.mp h
      cases heq
      exact ih hz
    refine Nat.le_succ_of_le ?_
    cases pending with
    | none =>
      rw [stringFrom] at h
      split at h
      · cases h
        exact Nat.le_refl _
      split at h
      · exact ih h
      split at h
      · cases h
      · exact hunit h
    | backslash =>
      rw [stringFrom] at h
      split at h
      · exact ih h
      split at h
      · exact hunit h
      · cases h
    | code mark left value =>
      rw [stringFrom] at h
      split at h
      · cases h
      split at h
      · exact ih h
      split at h
      · cases h
      · exact hunit h

theorem ne_nil_of_wordAtFront? {word : Text × Value} (h : wordAtFront? s = some word) :
    word.1 ≠ [] := by
  have hne : ∀ word ∈ wordValues, word.1 ≠ [] := by decide
  exact hne word (List.mem_of_find?_eq_some h)

theorem ne_nil_of_atFront? {n : Numeral} (h : Numeral.atFront? s = some n) : n.text ≠ [] := by
  have hwhole : n.whole ≠ [] := by
    unfold Numeral.atFront? at h
    dsimp only at h
    split at h <;> split at h <;> cases h
    all_goals next hne => exact fun hnil => hne (List.isEmpty_iff.mpr hnil)
  intro htext
  rw [Numeral.text, List.append_eq_nil_iff, List.append_eq_nil_iff, List.append_eq_nil_iff] at htext
  exact hwhole htext.1.1.2

/-- Every token takes at least one character. -/
theorem length_next (pos : Nat) (c : Char) (r : Text) : (next pos c r).2.2.length ≤ r.length := by
  have hdrop : ∀ {t : Text}, t ≠ [] → ((c :: r).drop t.length).length ≤ r.length := fun ht => by
    have := List.length_pos_iff.mpr ht
    rw [List.length_drop, List.length_cons]
    omega
  unfold next
  split
  · exact Nat.le_refl _
  split
  · unfold stringToken
    split
    · next h => exact length_of_stringFrom h
    · exact Nat.zero_le _
  · unfold plainToken
    split
    · next h => exact hdrop (ne_nil_of_wordAtFront? h)
    split
    · next h => exact hdrop (ne_nil_of_atFront? h)
    · exact Nat.zero_le _

/-- **The fuel of the tokens does not matter**, as long as it lasts for every character. -/
theorem tokensFrom_eq (h : s.length ≤ fuel) :
    tokensFrom fuel pos s = tokensFrom s.length pos s := by
  induction fuel using Nat.strongRecOn generalizing pos s with
  | ind fuel ih =>
    cases s with
    | nil => cases fuel <;> rfl
    | cons c r =>
      obtain ⟨fuel, rfl⟩ := Nat.exists_eq_succ_of_ne_zero (Nat.ne_zero_of_lt h)
      have hr : r.length ≤ fuel := Nat.le_of_succ_le_succ h
      -- both sides go on with the same rest, which is no longer than what is left
      have hrest : ∀ {t : Text} {stop : Nat}, t.length ≤ r.length →
          tokensFrom fuel stop t = tokensFrom r.length stop t := fun {t} {stop} ht => by
        rw [ih fuel (Nat.lt_succ_self fuel) (Nat.le_trans ht hr)]
        rcases Nat.lt_or_ge r.length (fuel + 1) with hlt | hge
        · exact (ih r.length hlt ht).symm
        · omega
      rw [List.length_cons, tokensFrom, tokensFrom]
      split
      · exact hrest (Nat.le_refl _)
      · dsimp only
        rw [hrest (length_next pos c r)]

/-- The tokens of a text that starts at a position. -/
def tokensAt (pos : Nat) (s : Text) : List Placed := tokensFrom s.length pos s

theorem tokensAt_cons_gap (h : isGap c = true) (pos : Nat) (r : Text) :
    tokensAt pos (c :: r) = tokensAt (pos + 1) r := by
  rw [tokensAt, List.length_cons, tokensFrom, if_pos h, tokensAt]

theorem tokensAt_cons (h : isGap c = false) (pos : Nat) (r : Text) : tokensAt pos (c :: r) =
    ⟨pos, (next pos c r).1⟩ :: tokensAt (next pos c r).2.1 (next pos c r).2.2 := by
  rw [tokensAt, List.length_cons, tokensFrom, if_neg (by simp [h])]
  dsimp only
  rw [tokensFrom_eq (length_next pos c r), tokensAt]

/-! ## Readers along a text -/

/-- The reader after a text that starts at a position. -/
def Reader.scan (reader : Reader) (pos : Nat) (s : Text) : Except ReadFault Reader :=
  runFrom reader (tokensAt pos s)

variable {reader reader' reader'' : Reader}

theorem Reader.scan_cons_gap (h : isGap c = true) (reader : Reader) (pos : Nat) (r : Text) :
    reader.scan pos (c :: r) = reader.scan (pos + 1) r := by
  rw [scan, tokensAt_cons_gap h, scan]

/-- **Reading one token**, and going on with what follows it. -/
theorem Reader.scan_cons_eq (h : isGap c = false) (reader : Reader) (pos : Nat) (r : Text) :
    reader.scan pos (c :: r) =
      (step reader ⟨pos, (next pos c r).1⟩).bind fun reader =>
        reader.scan (next pos c r).2.1 (next pos c r).2.2 := by
  rw [scan, tokensAt_cons h, runFrom]
  cases step reader ⟨pos, (next pos c r).1⟩ <;> rfl

/-- Reading one token that may come next. -/
theorem Reader.scan_cons {token : Token} {stop : Nat} (h : isGap c = false)
    (hnext : next pos c r = (token, stop, s)) (hstep : step reader ⟨pos, token⟩ = .ok reader') :
    reader.scan pos (c :: r) = reader'.scan stop s := by
  rw [scan_cons_eq h, hnext, hstep]
  rfl

/-- The piece takes the reader to the other one wherever it stands, if what follows it is right. -/
def Passes (follower : Text → Prop) (t : Text) (reader reader' : Reader) : Prop :=
  ∀ pos rest, follower rest → reader.scan pos (t ++ rest) = reader'.scan (pos + t.length) rest

/-- **Pieces are put together.** -/
theorem Passes.append {p q : Text → Prop} (h : Passes p t reader reader')
    (h' : Passes q u reader' reader'') (hp : ∀ rest, q rest → p (u ++ rest)) :
    Passes q (t ++ u) reader reader'' := by
  intro pos rest hrest
  rw [List.append_assoc, h pos _ (hp rest hrest), h' _ rest hrest, List.length_append,
    Nat.add_assoc]

end Json

end Marginalia
