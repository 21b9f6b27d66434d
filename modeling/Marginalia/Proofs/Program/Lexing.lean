import Marginalia.Program.Line
import Marginalia.Proofs.Program.Token

/-!
# The tokens of a line

Reading the tokens of a line never runs out of steps. A text that gives some tokens can be put
together from parts that give some of them each, and the brackets that are open afterwards follow
from the tokens.

## Main definitions

* `Program.Lexes`: a text that starts with some tokens
* `Program.Nesting.afterAll`: the open brackets after some tokens

## Main results

* `Program.tokens_cons`: the tokens of a line, one at a time
* `Program.Lexes.tokens_eq`: the tokens of a line that starts with some tokens
* `Program.lexes_of_tokens`: a line starts with what it says
-/

namespace Marginalia

namespace Program

variable {line : Nat} {opened opened' : Nesting} {c : Char} {r s rest : Text} {t : Token}
  {ts us : List Token}

/-- The tokens of a line that goes on after a token. -/
def push (t : Token) : Except SyntaxCause (List Token × Nesting) →
    Except SyntaxCause (List Token × Nesting) :=
  Except.map fun (ts, opened) => (t :: ts, opened)

/-- Steps as many as characters are enough. -/
theorem tokensFrom_eq {n m : Nat} (hn : s.length ≤ n) (hm : s.length ≤ m) (opened : Nesting) :
    tokensFrom line n opened s = tokensFrom line m opened s := by
  induction n generalizing m opened s with
  | zero =>
    obtain rfl := List.length_eq_zero_iff.mp (Nat.le_zero.mp hn)
    cases m <;> rfl
  | succ n ih =>
    cases s with
    | nil => cases m <;> rfl
    | cons c r =>
      simp only [List.length_cons, Nat.add_le_add_iff_right] at hn
      cases m with
      | zero => simp at hm
      | succ m =>
        simp only [List.length_cons, Nat.add_le_add_iff_right] at hm
        simp only [tokensFrom]
        rw [ih hn hm]
        cases h : next c r with
        | error e => rfl
        | ok p =>
          -- the token has taken a character, so that there are steps for the rest on both sides
          have hlen := length_next h
          dsimp only
          cases opened.after line p.1 with
          | error e => rfl
          | ok o => dsimp only; rw [ih (by omega : p.2.length ≤ n) (by omega : p.2.length ≤ m)]

theorem tokens_nil : tokens line opened [] = .ok ([], opened) := rfl

/-- **The tokens of a line, one at a time.** -/
theorem tokens_cons (line : Nat) (opened : Nesting) (c : Char) (r : Text) :
    tokens line opened (c :: r) =
      if isGap c then tokens line opened r
      else if c = '#' then .ok ([], opened)
      else
        match next c r with
        | .error e => .error e
        | .ok (t, rest) =>
          match opened.after line t with
          | .error e => .error e
          | .ok opened => push t (tokens line opened rest) := by
  simp only [tokens, List.length_cons, tokensFrom]
  cases h : next c r with
  | error e => rfl
  | ok p =>
    have hlen := length_next h
    dsimp only
    cases opened.after line p.1 with
    | error e => rfl
    | ok o => dsimp only; rw [tokensFrom_eq hlen (Nat.le_refl _)]; rfl

theorem tokens_gap (hc : isGap c = true) (r : Text) :
    tokens line opened (c :: r) = tokens line opened r := by
  rw [tokens_cons, if_pos hc]

/-- Blanks between tokens may stand in front of a line. -/
theorem tokens_indent {indent : Text} (hi : ∀ c ∈ indent, isGap c = true) (r : Text) :
    tokens line opened (indent ++ r) = tokens line opened r := by
  induction indent with
  | nil => rfl
  | cons c indent ih =>
    rw [List.cons_append, tokens_gap (hi c List.mem_cons_self)]
    exact ih fun d hd => hi d (List.mem_cons_of_mem _ hd)

/-- A comment says nothing. -/
theorem tokens_comment (r : Text) : tokens line opened ('#' :: r) = .ok ([], opened) := by
  rw [tokens_cons]
  rfl

/-! ## Open brackets -/

/-- The open brackets after some tokens. -/
def Nesting.afterAll (line : Nat) : Nesting → List Token → Except SyntaxCause Nesting
  | opened, [] => .ok opened
  | opened, t :: ts =>
    match opened.after line t with
    | .error e => .error e
    | .ok opened => Nesting.afterAll line opened ts

theorem afterAll_append (opened : Nesting) (ts us : List Token) :
    opened.afterAll line (ts ++ us) =
      match opened.afterAll line ts with
      | .error e => .error e
      | .ok opened => opened.afterAll line us := by
  induction ts generalizing opened with
  | nil => rfl
  | cons t ts ih =>
    simp only [List.cons_append, Nesting.afterAll]
    cases opened.after line t with
    | error e => rfl
    | ok o => exact ih o

theorem push_eq_ok {x : Except SyntaxCause (List Token × Nesting)}
    (h : push t x = .ok (ts, opened)) : ∃ us, x = .ok (us, opened) ∧ ts = t :: us := by
  cases x with
  | error e => cases h
  | ok p => cases h; exact ⟨_, rfl, rfl⟩

/-! ## Texts that start with some tokens -/

/-- A text that starts with some tokens, with blanks between them, and what is left of it. -/
inductive Lexes : Text → List Token → Text → Prop
  | nil (s : Text) : Lexes s [] s
  | gap {c : Char} {s rest : Text} {ts : List Token} (hc : isGap c = true)
    (h : Lexes s ts rest) : Lexes (c :: s) ts rest
  | token {c : Char} {s mid rest : Text} {t : Token} {ts : List Token} (hc : isGap c = false)
    (hs : c ≠ '#') (ht : next c s = .ok (t, mid)) (h : Lexes mid ts rest) :
    Lexes (c :: s) (t :: ts) rest

theorem Lexes.single (hc : isGap c = false) (hs : c ≠ '#') (ht : next c s = .ok (t, rest)) :
    Lexes (c :: s) [t] rest :=
  .token hc hs ht (.nil rest)

theorem Lexes.append {s mid rest : Text} (h : Lexes s ts mid) (h' : Lexes mid us rest) :
    Lexes s (ts ++ us) rest := by
  induction h with
  | nil s => exact h'
  | gap hc _ ih => exact .gap hc (ih h')
  | token hc hs ht _ ih => exact .token hc hs ht (ih h')

/-- **The tokens of a line that starts with some tokens** go on with those of what is left. -/
theorem Lexes.tokens_eq (h : Lexes s ts rest) (ho : opened.afterAll line ts = .ok opened') :
    tokens line opened s =
      (tokens line opened' rest).map fun (us, opened) => (ts ++ us, opened) := by
  induction h generalizing opened with
  | nil s =>
    cases ho
    cases tokens line opened' s <;> rfl
  | gap hc _ ih =>
    rw [tokens_gap hc]
    exact ih ho
  | @token c s mid rest t ts hc hs ht _ ih =>
    rw [Nesting.afterAll] at ho
    cases hafter : opened.after line t with
    | error e => rw [hafter] at ho; cases ho
    | ok o =>
      rw [hafter] at ho
      rw [tokens_cons, if_neg (by simp [hc]), if_neg hs, ht]
      dsimp only
      rw [hafter]
      dsimp only
      rw [ih ho]
      cases tokens line opened' rest <;> rfl

/-- **What a line says it starts with**, and the open brackets follow from it. The rest of the line,
if there is any, is a comment. -/
theorem lexes_of_tokens (h : tokens line opened s = .ok (ts, opened')) :
    (∃ rest, Lexes s ts rest) ∧ opened.afterAll line ts = .ok opened' := by
  -- by induction on the length, since a token may be long
  induction hn : s.length using Nat.strongRecOn generalizing s opened ts with
  | ind n ih =>
    cases s with
    | nil =>
      cases h
      exact ⟨⟨[], .nil []⟩, rfl⟩
    | cons c r =>
      rw [tokens_cons] at h
      split at h
      · next hc =>
        obtain ⟨⟨rest, hlexes⟩, hafter⟩ := ih r.length (by simp [← hn]) h rfl
        exact ⟨⟨rest, .gap hc hlexes⟩, hafter⟩
      next hc =>
      split at h
      · cases h
        exact ⟨⟨c :: r, .nil _⟩, rfl⟩
      next hs =>
      cases hnext : next c r with
      | error e => rw [hnext] at h; cases h
      | ok p =>
        obtain ⟨t, mid⟩ := p
        have hlen := length_next hnext
        rw [hnext] at h
        dsimp only at h
        cases ho : opened.after line t with
        | error e => rw [ho] at h; cases h
        | ok o =>
          rw [ho] at h
          obtain ⟨us, hus, rfl⟩ := push_eq_ok h
          obtain ⟨⟨rest, hlexes⟩, hafter⟩ :=
            ih mid.length (by simp only [List.length_cons] at hn; omega) hus rfl
          exact ⟨⟨rest, .token (by simpa using hc) hs hnext hlexes⟩,
            by rw [Nesting.afterAll, ho]; exact hafter⟩

/-- **The brackets that are open after a line** follow from its tokens. -/
theorem afterAll_of_tokens (h : tokens line opened s = .ok (ts, opened')) :
    opened.afterAll line ts = .ok opened' := (lexes_of_tokens h).2

/-- The tokens of a whole line. -/
theorem Lexes.tokens_eq_ok (h : Lexes s ts []) (ho : opened.afterAll line ts = .ok opened') :
    tokens line opened s = .ok (ts, opened') := by
  rw [h.tokens_eq ho, tokens_nil]
  exact congrArg Except.ok (by simp)

end Program

end Marginalia
