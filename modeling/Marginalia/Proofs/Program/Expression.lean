import Marginalia.Proofs.Program.Reader.Extension
import Marginalia.Proofs.Program.Spelling

/-!
# Expressions as texts

A text is an expression if all of it is the tokens of one. There is no comment in an expression:
inside a longer line it would hide what comes after it.

## Main definitions

* `Program.lexemes?`: the tokens that a text is
* `Program.expression?`: the expression that a text is

## Main results

* `Program.exists_spells`: an expression is spelled as it stands
-/

namespace Marginalia

namespace Program

/-- The tokens of a text, of which at most `fuel` characters and tokens are read. -/
def lexemesFrom : Nat → Text → Option (List Token)
  | _, [] => some []
  | 0, _ :: _ => none
  | fuel + 1, c :: r =>
    if isGap c then lexemesFrom fuel r
    else
      match next c r with
      | .error _ => none
      | .ok (t, rest) => (lexemesFrom fuel rest).map (t :: ·)

/-- The tokens that a text is. -/
def lexemes? (s : Text) : Option (List Token) := lexemesFrom s.length s

/-- The expression that a text is. -/
def expression? (s : Text) : Option Expr := (lexemes? s).bind expr?

theorem next_numberSign (r : Text) : next '#' r = .ok (.mark '#', r) := by
  have hquote : isQuote '#' = false := by decide
  have hdigit : Digits.isDigit '#' = false := by decide
  have hpoint : '#' ≠ '.' := by decide
  have hname : isNameStart '#' = false := by decide
  have hback : '#' ≠ Quoted.backslash := by decide
  have hmark : isMark '#' = true := by decide
  simp [next, hquote, hdigit, hpoint, hname, hback, hmark]

/-- Tokens without a number sign are spelled as they stand. -/
theorem spells_of_lexemesFrom {fuel : Nat} {s : Text} {ts : List Token}
    (h : lexemesFrom fuel s = some ts) (hq : ∀ t ∈ ts, t.IsQuiet) : Spells s ts := by
  intro x hx
  induction fuel generalizing s ts with
  | zero =>
    cases s with
    | nil => cases h; exact .nil x
    | cons c r => cases h
  | succ fuel ih =>
    cases s with
    | nil => cases h; exact .nil x
    | cons c r =>
      rw [lexemesFrom] at h
      split at h
      · next hc => exact .gap hc (ih h hq)
      next hc =>
      cases hn : next c r with
      | error e => rw [hn] at h; cases h
      | ok p =>
        obtain ⟨t, rest⟩ := p
        rw [hn] at h
        obtain ⟨us, hus, rfl⟩ := Option.map_eq_some_iff.mp h
        -- a number sign would be a mark among the tokens
        have hsign : c ≠ '#' := by
          rintro rfl
          rw [next_numberSign] at hn
          cases hn
          exact (hq _ List.mem_cons_self).2 rfl
        have hrest := ih hus fun t ht => hq t (List.mem_cons_of_mem _ ht)
        exact .token (by simpa using hc) hsign (next_append hx hn) hrest

/-- What an expression consumes is all of its tokens. -/
theorem consumes_of_expr? {ts : List Token} {e : Expr} (h : expr? ts = some e) :
    Consumes none ts [] :=
  (readersConsume _).expr (expr?_eq_some h)

/-- **An expression is spelled as it stands**, by tokens that it is. -/
theorem exists_spells {s : Text} {e : Expr} (h : expression? s = some e) :
    ∃ ts, lexemes? s = some ts ∧ expr? ts = some e ∧ Spells s ts := by
  obtain ⟨ts, hts, he⟩ := Option.bind_eq_some_iff.mp h
  exact ⟨ts, hts, he, spells_of_lexemesFrom hts (consumes_of_expr? he).isQuiet⟩

end Program

end Marginalia
