import Marginalia.Proofs.Text.Quoted
import Marginalia.Proofs.Yaml.Folding

/-!
# Quoted scalars read back

A quoted scalar ends at the first quote that is neither doubled nor escaped, and its lines are
joined without knowing the column at which it starts: between single quotes they are folded, and
between double quotes a backslash ends every line but the last one.

## Main definitions

* `Yaml.single?`, `Yaml.double?`: what stands between single and between double quotes
* `Yaml.quoted?`: a text in quotes of either kind

## Main results

* `Yaml.single?_doubleQuotes`, `Yaml.double?_writeDouble`: what stands between quotes reads back
* `Yaml.quoted?_writeText`: a text that is written in quotes reads back
-/

namespace Marginalia

namespace Yaml

open Quoted (push)

variable {indent column : Nat} {split : Bool} {c : Char} {r s t : Text}

/-! ## Single quotes -/

/-- The text up to the closing single quote, and what follows the quote; `closing` tells that the
character in front was a quote. -/
def single? : Bool → Text → Option (Text × Text)
  | closing, [] => if closing then some ([], []) else none
  | false, c :: r => if c = '\'' then single? true r else push c (single? false r)
  | true, c :: r => if c = '\'' then push c (single? false r) else some ([], c :: r)

/-- **What stands between single quotes reads back** up to the closing one. -/
theorem single?_doubleQuotes (hr : r.head? ≠ some '\'') (t : Text) :
    single? false (doubleQuotes t ++ '\'' :: r) = some (t, r) := by
  induction t with
  | nil =>
    change single? true r = _
    cases r with
    | nil => rfl
    | cons c r => exact if_neg fun h => hr (by rw [h]; rfl)
  | cons c t ih =>
    rw [doubleQuotes, List.flatMap_cons, ← doubleQuotes, List.append_assoc]
    by_cases hc : c = '\''
    · subst hc
      change push '\'' (single? false (doubleQuotes t ++ '\'' :: r)) = _
      rw [ih]
      rfl
    · rw [if_neg hc, List.singleton_append, single?, if_neg hc, ih]
      rfl

/-! ## Double quotes -/

/-- Where a reader between double quotes stands. -/
inductive Escaping
  /-- Outside an escape; `margin` tells that spaces are an indentation. -/
  | none (margin : Bool)
  /-- Behind a backslash. -/
  | backslash
  /-- In an escape that needs one more digit and `left` others after those of value `value`. -/
  | code (left value : Nat)

/-- The character that a letter behind a backslash stands for. -/
def letterChar (c : Char) : Char :=
  match c with
  | '0' => Char.ofNat 0x00
  | 'a' => Char.ofNat 0x07
  | 'b' => Char.ofNat 0x08
  | 't' => Char.ofNat 0x09
  | 'n' => Char.ofNat 0x0a
  | 'v' => Char.ofNat 0x0b
  | 'f' => Char.ofNat 0x0c
  | 'r' => Char.ofNat 0x0d
  | 'e' => Char.ofNat 0x1b
  | 'N' => Char.ofNat 0x85
  | '_' => Char.ofNat 0xa0
  | 'L' => Char.ofNat 0x2028
  | 'P' => Char.ofNat 0x2029
  | c => c

/-- The number of digits but one of the escapes that a letter starts. -/
def codeLeft? (c : Char) : Option Nat :=
  if c = 'x' then some 1 else if c = 'u' then some 3 else if c = 'U' then some 7 else none

/-- The text up to the closing double quote, and what follows the quote. -/
def double? : Escaping → Text → Option (Text × Text)
  | _, [] => none
  | .none margin, c :: r =>
    if margin && c == ' ' then double? (.none true) r
    else if c = Quoted.double then some ([], r)
    else if c = Quoted.backslash then double? .backslash r
    else push c (double? (.none false) r)
  | .backslash, c :: r =>
    if c = '\n' then double? (.none true) r
    else
      match codeLeft? c with
      | some left => double? (.code left 0) r
      | none => push (letterChar c) (double? (.none false) r)
  | .code left v, c :: r =>
    match Digits.hexValue? c, left with
    | none, _ => none
    | some d, 0 => push (Char.ofNat (16 * v + d)) (double? (.none false) r)
    | some d, left + 1 => double? (.code left (16 * v + d)) r

theorem double?_backslash (margin : Bool) (t : Text) :
    double? (.none margin) (Quoted.backslash :: t) = double? .backslash t := by
  cases margin <;> rfl

/-- The digits of an escape give its character. -/
theorem double?_hexWide (left n : Nat) (hn : n < 16 ^ (left + 1)) (t : Text) :
    double? (.code left 0) (Digits.hexWide true (left + 1) n ++ t) =
      push (Char.ofNat n) (double? (.none false) t) := by
  have hlt : n / 16 < 16 ^ left := by
    rw [Nat.div_lt_iff_lt_mul (by decide)]
    simpa [Nat.pow_succ] using hn
  have hlast := Digits.hexValue?_hexDigit true (Nat.mod_lt n (by decide : 0 < 16))
  have hvalue : 16 * (0 * 16 ^ left + n / 16) + n % 16 = n := by omega
  have hdigits := Quoted.read_hexWide true (fun left v t => double? (.code left v) t)
    (fun left v d t hd => by simp only [double?, Digits.hexValue?_hexDigit true hd])
    left 0 0 (n / 16) hlt (Digits.hexDigit true (n % 16) :: t)
  rw [Nat.zero_add] at hdigits
  rw [Digits.hexWide, List.append_assoc, List.singleton_append, hdigits]
  simp only [double?, hlast, hvalue]

theorem letterChar_of_letterEscape? {letter : Char} (h : letterEscape? c = some letter) :
    letter ≠ '\n' ∧ codeLeft? letter = none ∧ letterChar letter = c := by
  have key : ∀ n : Nat, c.toNat = n → Char.ofNat n = c := fun n hn => hn ▸ Char.ofNat_toNat c
  unfold letterEscape? at h
  split at h
  case h_16 => cases h
  all_goals
    next hn =>
    obtain rfl := Option.some.inj h
    exact ⟨by decide, by decide, key _ hn⟩

/-- **An escaped character reads back.** -/
theorem double?_escape (margin : Bool) (c : Char) (t : Text) :
    double? (.none margin) (escape c ++ t) = push c (double? (.none false) t) := by
  have hcode : ∀ (letter : Char) (left : Nat), letter ≠ '\n' → codeLeft? letter = some left →
      c.toNat < 16 ^ (left + 1) →
      double? .backslash (letter :: (Digits.hexWide true (left + 1) c.toNat ++ t)) =
        push c (double? (.none false) t) := by
    intro letter left hfeed hleft hlt
    rw [double?, if_neg hfeed, hleft]
    exact (double?_hexWide left _ hlt t).trans (by rw [Char.ofNat_toNat])
  have hmax := Quoted.toNat_lt c
  unfold escape
  split
  · next letter h =>
    obtain ⟨hfeed, hleft, hletter⟩ := letterChar_of_letterEscape? h
    rw [List.cons_append, double?_backslash, List.singleton_append, double?, if_neg hfeed, hleft]
    exact congrArg (push · _) hletter
  · rw [List.cons_append, double?_backslash]
    split
    · exact hcode 'x' 1 (by decide) rfl (by omega)
    split
    · exact hcode 'u' 3 (by decide) rfl (by omega)
    · exact hcode 'U' 7 (by decide) rfl (by omega)

theorem double?_bare (hc : isBare c = true) (t : Text) :
    double? (.none false) (c :: t) = push c (double? (.none false) t) := by
  have hdouble : c ≠ Quoted.double := by
    rintro rfl
    exact absurd hc (by decide)
  have hbackslash : c ≠ Quoted.backslash := by
    rintro rfl
    exact absurd hc (by decide)
  simp [double?, hdouble, hbackslash]

/-- The margin ends at what is no space. -/
theorem double?_margin (ht : t.head? ≠ some ' ') :
    double? (.none true) t = double? (.none false) t := by
  cases t with
  | nil => rfl
  | cons c t =>
    have hc : c ≠ ' ' := fun h => ht (by rw [h]; rfl)
    simp [double?, hc]

/-- A backslash at the end of a line leads into the margin of the next one. -/
theorem double?_newLine (margin : Bool) (indent : Nat) (t : Text) :
    double? (.none margin) (Quoted.backslash :: newLine indent ++ t) = double? (.none true) t := by
  rw [List.cons_append, double?_backslash]
  change double? (.none true) (Text.spaces indent ++ t) = _
  induction indent with
  | zero => rfl
  | succ n ih => exact ih

/-- A space that is guarded is no margin. -/
theorem double?_guarded (hc : isBare c = true) (t : Text) :
    double? (.none true) (guard (some c) ++ c :: t) = push c (double? (.none false) t) := by
  by_cases hspace : c = ' '
  · subst hspace
    rfl
  · have hguard : guard (some c) = [] := if_neg (by simpa using hspace)
    rw [hguard, List.nil_append, double?_margin (by simpa using hspace), double?_bare hc]

theorem exists_escape_eq (c : Char) : ∃ t, escape c = Quoted.backslash :: t := by
  unfold escape
  split
  · exact ⟨_, rfl⟩
  · exact ⟨_, rfl⟩

/-- What is written for a text starts with a space only if the text does. -/
theorem head?_writeDouble_ne (hc : c ≠ ' ') (fresh first : Bool) (s r : Text) :
    (writeDouble split indent column fresh first (c :: s) ++ r).head? ≠ some ' ' := by
  obtain ⟨t, ht⟩ := exists_escape_eq c
  have hbackslash : Quoted.backslash ≠ ' ' := by decide
  rw [writeDouble]
  dsimp only
  split
  · split
    · simpa using hbackslash
    · simpa using hc
  · split <;> simpa [ht] using hbackslash

/-- Behind a margin a text goes on with its guard. -/
theorem double?_lead (hindent : indent < width) (s r : Text) :
    double? (.none true) (guard s.head? ++ (writeDouble split indent
        (indent + (guard s.head?).length) true false s ++ Quoted.double :: r)) =
      double? (.none false) (writeDouble split indent (indent + (guard s.head?).length) true false s
        ++ Quoted.double :: r) := by
  -- a space behind a margin is guarded, so that the margin ends in front of it
  cases s with
  | nil =>
    have hquote : Quoted.double ≠ ' ' := by decide
    exact double?_margin (by simpa [guard, writeDouble] using hquote)
  | cons c s =>
    by_cases hc : c = ' '
    · subst hc
      have hfits : ¬ width < indent + 1 := by omega
      have hbare : isBare ' ' = true := rfl
      have hwrite : writeDouble split indent (indent + 1) true false (' ' :: s) =
          ' ' :: writeDouble split indent (indent + 1 + 1) false false s := by
        simp [writeDouble, hbare, hfits]
      change double? (.none true) (guard (some ' ') ++ (writeDouble split indent (indent + 1) true
        false (' ' :: s) ++ _)) = double? (.none false) (writeDouble split indent (indent + 1) true
        false (' ' :: s) ++ _)
      rw [hwrite, List.cons_append, double?_guarded hbare, double?_bare hbare]
    · have hguard : guard (c :: s).head? = [] := if_neg (by simpa using hc)
      rw [hguard, List.nil_append]
      exact double?_margin (head?_writeDouble_ne hc true false s _)

/-- **What stands between double quotes reads back** up to the closing one. -/
theorem double?_writeDouble (hindent : indent < width) (fresh first : Bool) (s r : Text) :
    double? (.none false) (writeDouble split indent column fresh first s ++ Quoted.double :: r) =
      some (s, r) := by
  -- a line may end before a bare character and behind an escaped one; in either case the rest is
  -- read from inside a line, so the induction is for every column
  induction s generalizing column fresh first with
  | nil => rfl
  | cons c s ih =>
    have hpush : ∀ {x : Option (Text × Text)}, x = some (s, r) → push c x = some (c :: s, r) := by
      rintro _ rfl
      rfl
    rw [writeDouble]
    dsimp only
    split
    · next hbare =>
      split
      · rw [List.append_assoc, List.append_assoc, double?_newLine, List.cons_append,
          double?_guarded hbare]
        exact hpush (ih _ _)
      · rw [List.cons_append, double?_bare hbare]
        exact hpush (ih _ _)
    · split
      · simp only [List.append_assoc, List.cons_append]
        rw [double?_escape, ← List.cons_append, double?_newLine, double?_lead hindent]
        exact hpush (ih _ _)
      · rw [List.append_assoc, double?_escape]
        exact hpush (ih _ _)

/-! ## Quotes of either kind -/

theorem plain_of_styleOf (h : styleOf s = .plain) :
    readsAsOther s = false ∧ allowsPlain s = true := by
  unfold styleOf at h
  split at h
  · next hplain => simpa using hplain
  · split at h <;> cases h

theorem single_of_styleOf (h : styleOf s = .single) : allowsSingle s = true := by
  unfold styleOf at h
  split at h
  · cases h
  · split at h
    · assumption
    · cases h

/-- A text in quotes, and what follows it. -/
def quoted? : Text → Option (Text × Text)
  | [] => none
  | c :: r =>
    if c = '\'' then (single? false r).map fun (t, rest) => (unfold .text t, rest)
    else if c = Quoted.double then double? (.none false) r
    else none

theorem quoted?_eq_none (h : ∀ c ∈ s.head?, c ≠ '\'' ∧ c ≠ Quoted.double) : quoted? s = none := by
  cases s with
  | nil => rfl
  | cons c s =>
    obtain ⟨hsingle, hdouble⟩ := h c rfl
    rw [quoted?, if_neg hsingle, if_neg hdouble]

/-- A text that is not written plain starts with its quote. -/
theorem exists_writeText_eq (hs : styleOf s ≠ .plain) (split : Bool) (indent column : Nat) :
    ∃ c t, writeText split indent column s = c :: t ∧ (c = '\'' ∨ c = Quoted.double) := by
  unfold writeText
  cases hstyle : styleOf s with
  | plain => exact absurd hstyle hs
  | single => exact ⟨_, _, rfl, Or.inl rfl⟩
  | double => exact ⟨_, _, rfl, Or.inr rfl⟩

/-- **A text that is written in quotes reads back**, whatever the column and the indentation are. -/
theorem quoted?_writeText (hs : styleOf s ≠ .plain) (hindent : indent < width)
    (hr : r.head? ≠ some '\'') : quoted? (writeText split indent column s ++ r) = some (s, r) := by
  unfold writeText
  cases hstyle : styleOf s with
  | plain => exact absurd hstyle hs
  | single =>
    have hfoldable := foldable_runs (allowsSingle_iff.mp (single_of_styleOf hstyle)).2
    obtain ⟨t, ht, hfolded⟩ := exists_folded hfoldable true split indent (column + 1) true
    have hshown : shownIn true t = doubleQuotes t := rfl
    have hread := single?_doubleQuotes hr t
    dsimp only
    rw [ht, hshown, List.append_assoc, List.cons_append, List.singleton_append, quoted?, if_pos rfl,
      hread, Option.map_some]
    dsimp only
    rw [hfolded.unfold_eq, runs_flatten]
  | double =>
    have hquote : Quoted.double ≠ '\'' := by decide
    dsimp only
    rw [List.append_assoc, List.cons_append, List.singleton_append, quoted?, if_neg hquote,
      if_pos rfl, double?_writeDouble hindent]

end Yaml

end Marginalia
