import Marginalia.Program.Token
import Marginalia.Proofs.Text.Quoted

/-!
# The first token of a text

A token takes at least one character, and where it ends does not depend on what follows, as long as
that is a line feed or a mark which no token goes on with.

## Main definitions

* `Program.Follows`: what may follow a token of any kind
* `Program.NextStep`: what the first token of a text is

## Main results

* `Program.next_eq_ok_iff`: the first token is what `NextStep` says
* `Program.length_next`: a token takes at least one character
* `Program.next_append`: the first token of a longer text
-/

namespace Marginalia

namespace Program

/-- What may follow a token of any kind: nothing, a line feed, or a mark that no token goes on
with. -/
def Follows (x : Text) : Prop := ∀ c, x.head? = some c → c ∈ [',', ')', ']', ':', '\x7d', '\n']

variable {c : Char} {r rest x : Text} {t : Token}

theorem follows_cons (h : c ∈ [',', ')', ']', ':', '\x7d', '\n']) (r : Text) :
    Follows (c :: r) := by
  rintro d ⟨⟩
  exact h

/-- A character of a class that holds none of the marks does not follow a token. -/
theorem Follows.eq_false (hx : Follows x) {p : Char → Bool}
    (hp : ∀ c ∈ [',', ')', ']', ':', '\x7d', '\n'], p c = false) (h : x.head? = some c) :
    p c = false :=
  hp c (hx c h)

/-! ## Numerals -/

/-- A numeral is a part of the text. -/
theorem numeralRun_flatten (hex point sign : Bool) (s : Text) :
    (numeralRun hex point sign s).1 ++ (numeralRun hex point sign s).2 = s := by
  induction s generalizing point sign with
  | nil => rfl
  | cons c r ih =>
    simp only [numeralRun]
    split
    · exact congrArg (c :: ·) (ih _ _)
    · split
      · exact congrArg (c :: ·) (ih _ _)
      · rfl

theorem numeralRun_append (hx : Follows x) (hex point sign : Bool) (s : Text) :
    numeralRun hex point sign (s ++ x) =
      ((numeralRun hex point sign s).1, (numeralRun hex point sign s).2 ++ x) := by
  induction s generalizing point sign with
  | nil =>
    cases x with
    | nil => rfl
    | cons c r =>
      have hn : inNumeral c = false := hx.eq_false (by decide) rfl
      have hs : (c == '.' || c == '+' || c == '-') = false :=
        hx.eq_false (p := fun c => c == '.' || c == '+' || c == '-') (by decide) rfl
      simp only [Bool.or_eq_false_iff] at hs
      simp [numeralRun, hn, hs]
  | cons c r ih =>
    simp only [List.cons_append, numeralRun, ih]
    split
    · rfl
    · split <;> rfl

theorem hasBase_cons (c : Char) (r : Text) :
    hasBase (c :: r) = (decide (c = '0') && r.head?.any fun d => "xXoObB".toList.contains d) := by
  by_cases hc : c = '0'
  · rw [hc]
    cases r <;> rfl
  · unfold hasBase
    split
    · next h =>
      cases h
      exact absurd rfl hc
    · simp [hc]

/-- What follows a token starts no part of it. -/
theorem any_head?_append (hx : Follows x) {p : Char → Bool}
    (hp : ∀ c ∈ [',', ')', ']', ':', '\x7d', '\n'], p c = false) (r : Text) :
    (r ++ x).head?.any p = r.head?.any p := by
  cases r with
  | cons d r => rfl
  | nil =>
    cases x with
    | nil => rfl
    | cons d x => exact hp d (hx d rfl)

theorem hasBase_append (hx : Follows x) (c : Char) (r : Text) :
    hasBase (c :: (r ++ x)) = hasBase (c :: r) := by
  rw [hasBase_cons, hasBase_cons, any_head?_append hx (by decide)]

theorem inNumeral_of_isDigit (h : Digits.isDigit c = true) : inNumeral c = true := by
  simp only [Digits.isDigit, Bool.and_eq_true, decide_eq_true_eq] at h
  have hd : c.isDigit = true := by
    simp only [Char.isDigit, Bool.and_eq_true, decide_eq_true_eq]
    exact ⟨h.1, h.2⟩
  simp [inNumeral, Char.isAlphanum, hd]

/-- A numeral holds the character that starts it. -/
theorem numeralRun_ne_nil (h : Digits.isDigit c = true ∨ c = '.') (hex : Bool) (r : Text) :
    (numeralRun hex true false (c :: r)).1 ≠ [] := by
  simp only [numeralRun]
  rcases h with h | h
  · rw [if_pos (inNumeral_of_isDigit h)]
    exact List.cons_ne_nil _ _
  · subst h
    exact List.cons_ne_nil _ _

/-! ## Texts -/

theorem literal_eq_ok {α : Type} {q : Char} {token : α → Token} {read? : Option (α × Text)}
    (h : literal q r token read? = .ok (t, rest)) :
    isTriple q r = false ∧ ∃ a, read? = some (a, rest) ∧ t = token a := by
  unfold literal at h
  split at h
  · cases h
  next htriple =>
  refine ⟨by simpa using htriple, ?_⟩
  split at h
  · cases h
    exact ⟨_, rfl, rfl⟩
  · cases h

theorem literal_some {α : Type} {q : Char} {token : α → Token} (hr : isTriple q r = false) (a : α) :
    literal q r token (some (a, rest)) = .ok (token a, rest) := by
  rw [literal, if_neg (by simp [hr])]

/-- Where what follows does not start with a quote, no third quote comes with it. -/
theorem isTriple_append {q : Char} (hx : ∀ c, x.head? = some c → c ≠ q) (r : Text) :
    isTriple q (r ++ x) = isTriple q r := by
  rcases r with _ | ⟨c, _ | ⟨d, r⟩⟩
  · rcases x with _ | ⟨c, _ | ⟨d, x⟩⟩
    · rfl
    · rfl
    · simp [isTriple, hx c rfl]
  · rcases x with _ | ⟨d, x⟩
    · rfl
    · simp [isTriple, hx d rfl]
  · rfl

/-- What follows a token is no quote. -/
theorem Follows.ne_of_isQuote (hx : Follows x) {q : Char} (hq : isQuote q = true)
    (h : x.head? = some c) : c ≠ q := by
  rintro rfl
  rw [hx.eq_false (p := isQuote) (by decide) h] at hq
  cases hq

/-! ## Words -/

theorem takeWhile_append_of_head {p : Char → Bool} (h : ∀ c, x.head? = some c → p c = false)
    (s : Text) :
    (s ++ x).takeWhile p = s.takeWhile p ∧ (s ++ x).dropWhile p = s.dropWhile p ++ x := by
  induction s with
  | nil =>
    cases x with
    | nil => exact ⟨rfl, rfl⟩
    | cons c r => simp [List.takeWhile, List.dropWhile, h c rfl]
  | cons c r ih =>
    by_cases hc : p c = true
    · simp [List.takeWhile, List.dropWhile, hc, ih.1, ih.2]
    · simp [List.takeWhile, List.dropWhile, hc]

theorem isNameChar_of_follows (hx : Follows x) (h : x.head? = some c) : isNameChar c = false :=
  hx.eq_false (by decide) h

/-- How a word is read: as it stands, or as the letter of the literal behind it. -/
inductive WordStep (s : Text) : Text → Token → Text → Prop
  | word {r : Text} (h : ∀ q ∈ r.head?, ¬ (isQuote q = true ∧ (s = ['b'] ∨ s = ['B'])) ∧
      ¬ (isQuote q = true ∧ (s = ['u'] ∨ s = ['U']))) : WordStep s r (word s) r
  | bytes {q : Char} {r rest : Text} {bs : Bytes} (hq : isQuote q = true)
    (hs : s = ['b'] ∨ s = ['B']) (ht : isTriple q r = false)
    (h : Quoted.readBytes? q r = some (bs, rest)) : WordStep s (q :: r) (.bytes bs) rest
  | text {q : Char} {r rest u : Text} (hq : isQuote q = true) (hs : s = ['u'] ∨ s = ['U'])
    (ht : isTriple q r = false) (h : Quoted.read? q r = some (u, rest)) :
    WordStep s (q :: r) (.text u) rest

theorem wordOrLiteral_eq_ok_iff {s : Text} :
    wordOrLiteral s r = .ok (t, rest) ↔ WordStep s r t rest := by
  constructor
  · intro h
    unfold wordOrLiteral at h
    split at h
    · next q r =>
      split at h
      · next hb =>
        obtain ⟨ht, bs, hr, rfl⟩ := literal_eq_ok h
        exact .bytes hb.1 hb.2 ht hr
      · next hb =>
        split at h
        · next hu =>
          obtain ⟨ht, u, hr, rfl⟩ := literal_eq_ok h
          exact .text hu.1 hu.2 ht hr
        · next hu =>
          cases h
          refine .word ?_
          rintro d ⟨⟩
          exact ⟨hb, hu⟩
    · cases h
      exact .word nofun
  · intro h
    cases h with
    | word h =>
      cases r with
      | nil => rfl
      | cons q r =>
        obtain ⟨hb, hu⟩ := h q rfl
        rw [wordOrLiteral, if_neg hb, if_neg hu]
    | bytes hq hs ht h => rw [wordOrLiteral, if_pos ⟨hq, hs⟩, h, literal_some ht]
    | text hq hs ht h =>
      have hb : ¬ (s = ['b'] ∨ s = ['B']) := by rcases hs with rfl | rfl <;> decide
      rw [wordOrLiteral, if_neg fun hq => hb hq.2, if_pos ⟨hq, hs⟩, h, literal_some ht]

/-! ## Tokens -/

/-- A digit, or a point in front of one. -/
abbrev StartsNumeral (c : Char) (r : Text) : Prop :=
  Digits.isDigit c = true ∨ (c = '.' ∧ r.head?.any Digits.isDigit = true)

/-- What the first token of a text is, and what is left: a literal, a numeral, a word or a mark. -/
inductive NextStep (c : Char) (r : Text) : Token → Text → Prop
  | text {s rest : Text} (hq : isQuote c = true) (ht : isTriple c r = false)
    (h : Quoted.read? c r = some (s, rest)) : NextStep c r (.text s) rest
  | numeral {t : Token} (hq : ¬ isQuote c = true) (hd : StartsNumeral c r)
    (h : numeral (numeralRun (hasBase (c :: r)) true false (c :: r)).1 = .ok t) :
    NextStep c r t (numeralRun (hasBase (c :: r)) true false (c :: r)).2
  | word {t : Token} {rest : Text} (hq : ¬ isQuote c = true) (hd : ¬ StartsNumeral c r)
    (hs : isNameStart c = true)
    (h : WordStep (c :: r.takeWhile isNameChar) (r.dropWhile isNameChar) t rest) :
    NextStep c r t rest
  | mark (hq : ¬ isQuote c = true) (hd : ¬ StartsNumeral c r) (hs : ¬ isNameStart c = true)
    (hb : c ≠ Quoted.backslash) (hm : isMark c = true) : NextStep c r (.mark c) r

theorem next_eq_ok_iff : next c r = .ok (t, rest) ↔ NextStep c r t rest := by
  constructor
  · intro h
    unfold next at h
    split at h
    · next hq =>
      obtain ⟨ht, s, hs, rfl⟩ := literal_eq_ok h
      exact .text hq ht hs
    next hq =>
    split at h
    · next hd =>
      dsimp only at h
      cases hn : numeral (numeralRun (hasBase (c :: r)) true false (c :: r)).1 with
      | error e => rw [hn] at h; cases h
      | ok n =>
        rw [hn] at h
        cases h
        exact .numeral hq hd hn
    next hd =>
    split at h
    · next hs => exact .word hq hd hs (wordOrLiteral_eq_ok_iff.mp h)
    next hs =>
    split at h
    · cases h
    next hb =>
    split at h
    · next hm =>
      cases h
      exact .mark hq hd hs hb hm
    · cases h
  · intro h
    unfold next
    cases h with
    | text hq ht h => rw [if_pos hq, h, literal_some ht]
    | numeral hq hd h =>
      rw [if_neg hq, if_pos hd]
      dsimp only
      rw [h]
      rfl
    | word hq hd hs h =>
      rw [if_neg hq, if_neg hd, if_pos hs]
      exact wordOrLiteral_eq_ok_iff.mpr h
    | mark hq hd hs hb hm =>
      rw [if_neg hq, if_neg hd, if_neg hs, if_neg hb, if_pos hm]

/-! ### Where a token ends -/

theorem WordStep.length_le {s : Text} (h : WordStep s r t rest) : rest.length ≤ r.length := by
  cases h with
  | word => exact Nat.le_refl _
  | bytes _ _ _ h =>
    obtain ⟨u, -, rfl, -⟩ := Quoted.readBytes?_eq_some h
    simp only [List.length_cons, List.length_append]
    omega
  | text _ _ _ h =>
    obtain ⟨u, -, rfl, -⟩ := Quoted.readFrom_eq_some h
    simp only [List.length_cons, List.length_append]
    omega

/-- **A token takes at least one character.** -/
theorem length_next (h : next c r = .ok (t, rest)) : rest.length ≤ r.length := by
  cases next_eq_ok_iff.mp h with
  | text _ _ h =>
    obtain ⟨u, -, rfl, -⟩ := Quoted.readFrom_eq_some h
    simp only [List.length_append]
    omega
  | numeral _ hd =>
    have hlen := congrArg List.length (numeralRun_flatten (hasBase (c :: r)) true false (c :: r))
    have hpos := List.length_pos_iff.mpr
      (numeralRun_ne_nil (hd.imp_right And.left) (hasBase (c :: r)) r)
    simp only [List.length_append, List.length_cons] at hlen
    omega
  | word _ _ _ h =>
    have hword := h.length_le
    have hname := (List.dropWhile_sublist isNameChar (l := r)).length_le
    omega
  | mark => exact Nat.le_refl _

theorem WordStep.append (hx : Follows x) {s : Text} (h : WordStep s r t rest) :
    WordStep s (r ++ x) t (rest ++ x) := by
  cases h with
  | word h =>
    refine .word fun q hq => ?_
    cases r with
    | nil =>
      -- no quote follows a token
      have hquote : isQuote q = false := hx.eq_false (by decide) hq
      rw [hquote]
      exact ⟨nofun, nofun⟩
    | cons d r => exact h q hq
  | bytes hq hs ht h =>
    obtain ⟨u, -, rfl, hu⟩ := Quoted.readBytes?_eq_some h
    rw [← isTriple_append fun c hc => hx.ne_of_isQuote hq hc] at ht
    rw [List.cons_append]
    rw [List.append_assoc] at ht ⊢
    exact .bytes hq hs ht (hu _)
  | text hq hs ht h =>
    obtain ⟨u, -, rfl, hu⟩ := Quoted.readFrom_eq_some h
    rw [← isTriple_append fun c hc => hx.ne_of_isQuote hq hc] at ht
    rw [List.cons_append]
    rw [List.append_assoc] at ht ⊢
    exact .text hq hs ht (hu _)

theorem startsNumeral_append (hx : Follows x) : StartsNumeral c (r ++ x) ↔ StartsNumeral c r := by
  rw [StartsNumeral, StartsNumeral, any_head?_append hx (by decide)]

/-- **The first token of a longer text** is that of the text. -/
theorem next_append (hx : Follows x) (h : next c r = .ok (t, rest)) :
    next c (r ++ x) = .ok (t, rest ++ x) := by
  rw [next_eq_ok_iff]
  cases next_eq_ok_iff.mp h with
  | text hq ht h =>
    obtain ⟨u, -, rfl, hu⟩ := Quoted.readFrom_eq_some h
    rw [← isTriple_append fun c hc => hx.ne_of_isQuote hq hc] at ht
    rw [List.append_assoc] at ht ⊢
    exact .text hq ht (hu _)
  | numeral hq hd h =>
    -- what follows is no part of the numeral
    have hrun := numeralRun_append hx (hasBase (c :: r)) true false (c :: r)
    have hstep : NextStep c (r ++ x) t _ := .numeral hq ((startsNumeral_append hx).mpr hd)
      (by rwa [hasBase_append hx, ← List.cons_append, hrun])
    rwa [hasBase_append hx, ← List.cons_append, hrun] at hstep
  | word hq hd hs h =>
    obtain ⟨htake, hdrop⟩ := takeWhile_append_of_head (p := isNameChar)
      (fun c hc => isNameChar_of_follows hx hc) r
    refine .word hq (mt (startsNumeral_append hx).mp hd) hs ?_
    rw [htake, hdrop]
    exact h.append hx
  | mark hq hd hs hb hm => exact .mark hq (mt (startsNumeral_append hx).mp hd) hs hb hm

end Program

end Marginalia
