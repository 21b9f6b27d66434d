import Marginalia.Proofs.Program.Reader.Consumption

/-!
# How many brackets are open at a time

The greatest number of brackets that are open at a time follows from the tokens part by part, as
long as every bracket that is closed has been opened. Tokens that close what they open may stand
between others: they count on their own, from the number of brackets that they stand in.

## Main results

* `Program.nesting_append`: how deep two parts are nested
* `Program.Closes.nesting_append`: how deep a part is nested that closes what it opens
-/

namespace Marginalia

namespace Program

variable {line : Nat} {opened o : Nesting} {c close : Char} {t : Token} {ts us : List Token}

theorem le_nesting (k : Nat) (ts : List Token) : k ≤ nesting k ts := by
  fun_induction nesting k ts with
  | case1 => exact Nat.le_refl _
  | case2 => omega
  | case3 => exact Nat.le_max_left _ _
  | case4 => assumption
  | case5 => assumption

/-- One token more. There may be any number of further brackets around those that are open. -/
theorem nesting_cons (h : opened.after line t = .ok o) (k : Nat) (ts : List Token) :
    nesting (opened.length + k) (t :: ts) =
      max (opened.length + k) (nesting (o.length + k) ts) := by
  have hstay : opened = o → nesting (opened.length + k) ts =
      max (opened.length + k) (nesting (o.length + k) ts) := by
    rintro rfl
    exact (Nat.max_eq_right (le_nesting _ ts)).symm
  cases t with
  | mark c =>
    simp only [Nesting.after] at h
    rw [nesting]
    split at h
    · -- one more is open from here on, so that the rest is as deep as that at least
      next hopens =>
      obtain rfl := Except.ok.inj h
      have hle := le_nesting (opened.length + k + 1) ts
      rw [if_pos hopens, List.length_cons, Nat.add_right_comm opened.length 1 k,
        Nat.max_eq_right (by omega)]
    next hopens =>
    rw [if_neg hopens]
    split at h
    · next hcloses =>
      rw [if_pos hcloses]
      -- there is one to close, or the token would be a fault
      split at h
      · cases h
      · split at h
        · obtain rfl := Except.ok.inj h
          rw [List.length_cons, Nat.add_right_comm, Nat.add_sub_cancel]
        · cases h
    · next hcloses =>
      rw [if_neg hcloses]
      exact hstay (Except.ok.inj h)
  | _ => exact hstay (Except.ok.inj h)

/-- **How deep two parts are nested.** -/
theorem nesting_append (h : opened.afterAll line ts = .ok o) (k : Nat) (us : List Token) :
    nesting (opened.length + k) (ts ++ us) =
      max (nesting (opened.length + k) ts) (nesting (o.length + k) us) := by
  -- the brackets that are open change with every token, what stands around them does not
  induction ts generalizing opened with
  | nil =>
    obtain rfl := Except.ok.inj h
    exact (Nat.max_eq_right (le_nesting _ us)).symm
  | cons t ts ih =>
    rw [Nesting.afterAll] at h
    cases hafter : opened.after line t with
    | error e => rw [hafter] at h; cases h
    | ok o' =>
      rw [hafter] at h
      rw [List.cons_append, nesting_cons hafter, nesting_cons hafter, ih h, Nat.max_assoc]

/-- Brackets around some tokens are open all the time. -/
theorem nesting_add (h : opened.afterAll line ts = .ok o) (k : Nat) :
    nesting (opened.length + k) ts = nesting opened.length ts + k := by
  induction ts generalizing opened with
  | nil => rfl
  | cons t ts ih =>
    rw [Nesting.afterAll] at h
    cases hafter : opened.after line t with
    | error e => rw [hafter] at h; cases h
    | ok o' =>
      rw [hafter] at h
      have hzero := nesting_cons hafter 0 ts
      rw [Nat.add_zero, Nat.add_zero] at hzero
      rw [nesting_cons hafter, ih h, hzero, Nat.add_max_add_right]

namespace Closes

/-- **How deep a part is nested that closes what it opens**: it counts from the brackets that it
stands in. -/
theorem nesting_append (h : Closes none ts) (k : Nat) (us : List Token) :
    nesting k (ts ++ us) = max (nesting 0 ts + k) (nesting k us) := by
  have hall : Nesting.afterAll 0 [] ts = .ok [] := h 0 0 []
  have happend := Program.nesting_append hall k us
  have hadd := nesting_add hall k
  simp only [List.length_nil, Nat.zero_add] at happend hadd
  rw [happend, hadd]

/-- What stands between brackets. -/
theorem nesting_enclosed (hc : closing? c = some close) (h : Closes none ts) :
    nesting 0 (.mark c :: (ts ++ [.mark close])) = nesting 0 ts + 1 := by
  have hopens : (closing? c).isSome = true := by rw [hc]; rfl
  rw [nesting, if_pos hopens, h.nesting_append]
  have hclose : nesting 1 [.mark close] = 1 := by
    unfold closing? at hc
    split_ifs at hc <;> cases hc <;> rfl
  rw [Nat.zero_add, hclose]
  exact Nat.max_eq_left (Nat.le_add_left 1 _)

end Closes

end Program

end Marginalia
