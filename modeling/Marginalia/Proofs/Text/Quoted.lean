import Mathlib.Algebra.Group.Nat.Defs
import Mathlib.Tactic.SplitIfs
import Marginalia.Proofs.Text.Ends

/-!
# Literals read back

The literal of a text stands on one line, and reading it gives the text, whatever follows it and
whichever characters beyond ASCII were shown as themselves.

## Main results

* `Quoted.oneLine_write`: a literal stands on one line
* `Quoted.read?_write`: the literal of a text reads back
-/

namespace Marginalia

namespace Quoted

variable {printable : Char → Bool} {q : Char}

/-! ## A literal stands on one line -/

theorem isLineEnd_eq_false_of_lt {c : Char} (h : 0x0d < c.toNat) : isLineEnd c = false := by
  have hlf : c ≠ '\n' := by
    rintro rfl
    exact absurd h (by decide)
  have hcr : c ≠ '\r' := by
    rintro rfl
    exact absurd h (by decide)
  simp [isLineEnd, hlf, hcr]

theorem le_toNat_hexDigit {d : Nat} (h : d < 16) : 0x20 ≤ (Digits.hexDigit false d).toNat := by
  have all : ∀ d, d < 16 → 0x20 ≤ (Digits.hexDigit false d).toNat := by decide
  exact all d h

theorem le_toNat_of_mem_hexWide {w n : Nat} {c : Char} (h : c ∈ Digits.hexWide false w n) :
    0x20 ≤ c.toNat := by
  induction w generalizing n with
  | zero => simp [Digits.hexWide] at h
  | succ w ih =>
    rw [Digits.hexWide, List.mem_append, List.mem_singleton] at h
    rcases h with h | rfl
    · exact ih h
    · exact le_toNat_hexDigit (Nat.mod_lt n (by decide))

theorem le_toNat_of_mem_codeEscape {letter : Char} (hl : 0x20 ≤ letter.toNat) {w n : Nat}
    {c : Char} (h : c ∈ codeEscape letter w n) : 0x20 ≤ c.toNat := by
  rcases List.mem_cons.mp h with rfl | h
  · decide
  rcases List.mem_cons.mp h with rfl | h
  · exact hl
  · exact le_toNat_of_mem_hexWide h

/-- The two quotes. -/
def IsQuote (q : Char) : Prop := q = single ∨ q = double

theorem isQuote_quoteFor (s : Text) : IsQuote (quoteFor s) := by
  unfold quoteFor
  split
  · exact Or.inr rfl
  · exact Or.inl rfl

theorem le_toNat_of_isQuote (hq : IsQuote q) : 0x20 ≤ q.toNat := by
  rcases hq with rfl | rfl <;> decide

theorem le_toNat_of_mem_escape (hq : IsQuote q) {c d : Char} (h : d ∈ escape printable q c) :
    0x20 ≤ d.toNat := by
  have pair : ∀ {a b : Char}, 0x20 ≤ a.toNat → 0x20 ≤ b.toNat → d ∈ [a, b] → 0x20 ≤ d.toNat := by
    intro a b ha hb hd
    rcases List.mem_cons.mp hd with rfl | hd
    · exact ha
    · rwa [List.mem_singleton.mp hd]
  unfold escape at h
  split_ifs at h with h₁ h₂ h₃ h₄ h₅ h₆ h₇ h₈ h₉
  · refine pair (by decide) ?_ h
    rcases h₁ with rfl | rfl
    · exact le_toNat_of_isQuote hq
    · decide
  · exact pair (by decide) (by decide) h
  · exact pair (by decide) (by decide) h
  · exact pair (by decide) (by decide) h
  · exact le_toNat_of_mem_codeEscape (by decide) h
  · rw [List.mem_singleton.mp h]
    omega
  · rw [List.mem_singleton.mp h]
    omega
  · exact le_toNat_of_mem_codeEscape (by decide) h
  · exact le_toNat_of_mem_codeEscape (by decide) h
  · exact le_toNat_of_mem_codeEscape (by decide) h

/-- **A literal holds no control characters** of ASCII but the last one. -/
theorem le_toNat_of_mem_write {s : Text} {c : Char} (h : c ∈ write printable s) :
    0x20 ≤ c.toNat := by
  have hq := isQuote_quoteFor s
  simp only [write, List.cons_append, List.mem_cons, List.mem_append, List.mem_flatMap,
    List.not_mem_nil, or_false] at h
  rcases h with rfl | ⟨a, -, ha⟩ | rfl
  · exact le_toNat_of_isQuote hq
  · exact le_toNat_of_mem_escape hq ha
  · exact le_toNat_of_isQuote hq

/-- **A literal stands on one line.** -/
theorem oneLine_write (s : Text) : (write printable s).OneLine := fun _ h =>
  isLineEnd_eq_false_of_lt (Nat.lt_of_lt_of_le (by decide) (le_toNat_of_mem_write h))

/-! ## A literal reads back -/

theorem charOf?_toNat (c : Char) : charOf? c.toNat = some c := by
  have hv : c.toNat.isValidChar := c.valid
  simp [charOf?, hv]

/-- Hexadecimal digits are read one after another by a reader that counts them down. -/
theorem read_hexWide {α : Type} (upper : Bool) (f : Nat → Nat → Text → α)
    (hf : ∀ left v d t, d < 16 → f (left + 1) v (Digits.hexDigit upper d :: t) =
      f left (16 * v + d) t) (w k v n : Nat) (hn : n < 16 ^ w) (r : Text) :
    f (k + w) v (Digits.hexWide upper w n ++ r) = f k (v * 16 ^ w + n) r := by
  induction w generalizing k n r with
  | zero =>
    have : n = 0 := by simpa using hn
    simp [Digits.hexWide, this]
  | succ w ih =>
    have hlt : n / 16 < 16 ^ w := by
      rw [Nat.div_lt_iff_lt_mul (by decide)]
      simpa [Nat.pow_succ] using hn
    have hv : 16 * (v * 16 ^ w + n / 16) + n % 16 = v * 16 ^ (w + 1) + n := by
      rw [Nat.pow_succ]
      have := Nat.div_add_mod n 16
      rw [Nat.mul_add, ← Nat.mul_assoc, Nat.mul_comm 16 v, Nat.mul_assoc, Nat.mul_comm 16 (16 ^ w)]
      omega
    rw [Digits.hexWide, List.append_assoc, show k + (w + 1) = k + 1 + w by omega,
      ih (k + 1) (n / 16) hlt, List.singleton_append, hf _ _ _ _ (Nat.mod_lt n (by decide)), hv]

/-- Digits of an escape are read one after another while more of them are due. -/
theorem readFrom_hexWide (w k v n : Nat) (hn : n < 16 ^ w) (r : Text) :
    readFrom q true (.hex (w + (k + 1)) v) (Digits.hexWide false w n ++ r) =
      readFrom q true (.hex (k + 1) (v * 16 ^ w + n)) r := by
  rw [show w + (k + 1) = k + w + 1 by omega]
  refine read_hexWide _ (fun left v t => readFrom q true (.hex (left + 1) v) t)
    (fun left v d t hd => ?_) w k v n hn r
  simp only [readFrom, Digits.hexValue?_hexDigit false hd, show ¬ left + 1 + 1 ≤ 1 by omega,
    if_false, Nat.add_sub_cancel]

/-- The last digit of an escape gives the character. -/
theorem readFrom_code {w : Nat} {c : Char} (hc : c.toNat < 16 ^ (w + 1)) (r : Text) :
    readFrom q true (.hex (w + 1) 0) (Digits.hexWide false (w + 1) c.toNat ++ r) =
      push c (readFrom q true .none r) := by
  have hlt : c.toNat / 16 < 16 ^ w := by
    rw [Nat.div_lt_iff_lt_mul (by decide)]
    simpa [Nat.pow_succ] using hc
  have hd := Digits.hexValue?_hexDigit false (Nat.mod_lt c.toNat (by decide : 0 < 16))
  have hv : 16 * (0 * 16 ^ w + c.toNat / 16) + c.toNat % 16 = c.toNat := by omega
  rw [Digits.hexWide, List.append_assoc, readFrom_hexWide w 0 0 _ hlt, List.singleton_append,
    readFrom, hd]
  simp only [Nat.zero_add, Nat.le_refl, if_true, hv, charOf?_toNat]

theorem quote_ne_backslash (hq : IsQuote q) : backslash ≠ q := by
  rcases hq with rfl | rfl <;> decide

/-- An escape of one letter gives the character it stands for. -/
theorem readFrom_letter (hq : IsQuote q) {c d : Char} (h : letterEscape? d = some c) (r : Text) :
    readFrom q true .none (backslash :: d :: r) = push c (readFrom q true .none r) := by
  simp only [readFrom, if_neg (quote_ne_backslash hq), if_true, h]

/-- An escape by code point gives the character. -/
theorem readFrom_codeEscape (hq : IsQuote q) {letter c : Char} {w : Nat}
    (hl : letterEscape? letter = none) (hs : starts? true letter = some (.hex (w + 1) 0))
    (hc : c.toNat < 16 ^ (w + 1)) (r : Text) :
    readFrom q true .none (codeEscape letter (w + 1) c.toNat ++ r) =
      push c (readFrom q true .none r) := by
  rw [codeEscape, List.cons_append, List.cons_append]
  simp only [readFrom, if_neg (quote_ne_backslash hq), if_true, hl, hs]
  exact readFrom_code hc r

/-- A character that needs no escape stands for itself. -/
theorem readFrom_raw {c : Char} (hq : c ≠ q) (hb : c ≠ backslash) (hc : isLineEnd c = false)
    (r : Text) : readFrom q true .none (c :: r) = push c (readFrom q true .none r) := by
  simp [readFrom, hq, hb, isRaw, hc]

theorem toNat_lt (c : Char) : c.toNat < 0x110000 := by
  have hv : c.toNat.isValidChar := c.valid
  rcases hv with h | h <;> omega

/-- **What a character is written as stands for it.** -/
theorem readFrom_escape (hq : IsQuote q) (c : Char) (r : Text) :
    readFrom q true .none (escape printable q c ++ r) = push c (readFrom q true .none r) := by
  unfold escape
  split_ifs with h₁ h₂ h₃ h₄ h₅ h₆ h₇ h₈ h₉
  · refine readFrom_letter hq ?_ r
    rcases h₁ with rfl | rfl
    · rcases hq with rfl | rfl <;> rfl
    · rfl
  · subst h₂
    exact readFrom_letter hq rfl r
  · subst h₃
    exact readFrom_letter hq rfl r
  · subst h₄
    exact readFrom_letter hq rfl r
  · exact readFrom_codeEscape hq rfl rfl (by omega) r
  · obtain ⟨hcq, hcb⟩ := not_or.mp h₁
    exact readFrom_raw hcq hcb (isLineEnd_eq_false_of_lt (by omega)) r
  · obtain ⟨hcq, hcb⟩ := not_or.mp h₁
    exact readFrom_raw hcq hcb (isLineEnd_eq_false_of_lt (by omega)) r
  · exact readFrom_codeEscape hq rfl rfl (by omega) r
  · exact readFrom_codeEscape hq rfl rfl (by omega) r
  · have := toNat_lt c
    exact readFrom_codeEscape hq rfl rfl (by omega) r

/-- What stands between the quotes of a literal reads back up to the closing one. -/
theorem readFrom_flatMap_escape (hq : IsQuote q) (s r : Text) :
    readFrom q true .none (s.flatMap (escape printable q) ++ q :: r) = some (s, r) := by
  induction s with
  | nil => simp [readFrom]
  | cons c s ih =>
    rw [List.flatMap_cons, List.append_assoc, readFrom_escape hq, ih]
    rfl

/-- **The literal of a text reads back**, for every choice of the characters that are shown as
themselves and whatever follows. -/
theorem read?_write (printable : Char → Bool) (s r : Text) :
    ∃ q t, IsQuote q ∧ write printable s = q :: t ∧ read? q (t ++ r) = some (s, r) := by
  refine ⟨quoteFor s, s.flatMap (escape printable (quoteFor s)) ++ [quoteFor s],
    isQuote_quoteFor s, rfl, ?_⟩
  rw [List.append_assoc, List.singleton_append]
  exact readFrom_flatMap_escape (isQuote_quoteFor s) s r

/-! ## A literal is read up to its closing quote -/

/-- Characters in front of a read text. -/
def pushAll (ds : Text) : Option (Text × Text) → Option (Text × Text) :=
  Option.map fun (s, rest) => (ds ++ s, rest)

theorem push_eq_pushAll (c : Char) : push c = pushAll [c] := rfl

theorem pushAll_nil (x : Option (Text × Text)) : pushAll [] x = x := by cases x <;> rfl

theorem pushAll_pushAll (ds es : Text) (x : Option (Text × Text)) :
    pushAll ds (pushAll es x) = pushAll (ds ++ es) x := by
  cases x with
  | none => rfl
  | some p => simp [pushAll]

section Step

/-- What one character does to a reader, whatever follows: it ends the literal, leaves a reader that
goes on, or is refused. -/
inductive ReadStep (q : Char) (wide : Bool) (p : Pending) (c : Char) : Prop
  | ends (ds : Text) (h : ∀ r, readFrom q wide p (c :: r) = some (ds, r))
  | goesOn (p' : Pending) (ds : Text)
    (h : ∀ r, readFrom q wide p (c :: r) = pushAll ds (readFrom q wide p' r))
  | refused (h : ∀ r, readFrom q wide p (c :: r) = none)

variable {wide : Bool} {p : Pending} {c : Char}

/-- Nothing has been read yet. -/
theorem ReadStep.silent (p' : Pending)
    (h : ∀ r, readFrom q wide p (c :: r) = readFrom q wide p' r) : ReadStep q wide p c :=
  .goesOn p' [] fun r => by rw [h, pushAll_nil]

/-- One character has been read. -/
theorem ReadStep.char (d : Char)
    (h : ∀ r, readFrom q wide p (c :: r) = push d (readFrom q wide .none r)) :
    ReadStep q wide p c :=
  .goesOn .none [d] h

theorem readStep_none (q : Char) (wide : Bool) (c : Char) : ReadStep q wide .none c := by
  by_cases hq : c = q
  · exact .ends [] fun r => by rw [readFrom, if_pos hq]
  by_cases hb : c = backslash
  · exact .silent .backslash fun r => by rw [readFrom, if_neg hq, if_pos hb]
  by_cases hr : isRaw wide c = true
  · exact .char c fun r => by rw [readFrom, if_neg hq, if_neg hb, if_pos hr]
  · exact .refused fun r => by rw [readFrom, if_neg hq, if_neg hb, if_neg hr]

theorem readStep_backslash (q : Char) (wide : Bool) (c : Char) :
    ReadStep q wide .backslash c := by
  cases hl : letterEscape? c with
  | some d => exact .char d fun r => by simp only [readFrom, hl]
  | none =>
    cases hs : starts? wide c with
    | some p' => exact .silent p' fun r => by simp only [readFrom, hl, hs]
    | none =>
      by_cases hn : c = '\n'
      · exact .silent .none fun r => by simp only [readFrom, hl, hs, if_pos hn]
      by_cases hr : isRaw wide c = true
      · -- an unknown escape stands for itself
        refine .goesOn .none [backslash, c] fun r => ?_
        simp only [readFrom, hl, hs, if_neg hn, if_pos hr, push_eq_pushAll, pushAll_pushAll]
        rfl
      · exact .refused fun r => by simp only [readFrom, hl, hs, if_neg hn, if_neg hr]

theorem readStep_hex (q : Char) (wide : Bool) (left v : Nat) (c : Char) :
    ReadStep q wide (.hex left v) c := by
  cases hd : Digits.hexValue? c with
  | none => exact .refused fun r => by simp only [readFrom, hd]
  | some d =>
    by_cases hl : left ≤ 1
    · -- the last digit
      cases he : charOf? (16 * v + d) with
      | none => exact .refused fun r => by simp only [readFrom, hd, if_pos hl, he]
      | some e => exact .char e fun r => by simp only [readFrom, hd, if_pos hl, he]
    · exact .silent (.hex (left - 1) (16 * v + d)) fun r => by
        simp only [readFrom, hd, if_neg hl]

theorem readStep_octal (q : Char) (wide : Bool) (left v : Nat) (c : Char) :
    ReadStep q wide (.octal left v) c := by
  by_cases ho : (isOctal c && decide (0 < left)) = true
  · exact .silent (.octal (left - 1) (8 * v + Digits.value c)) fun r => by rw [readFrom, if_pos ho]
  · -- the escape is over, and the character counts as if it stood alone
    have he : ∀ r, readFrom q wide (.octal left v) (c :: r) =
        pushAll [Char.ofNat v] (readFrom q wide .none (c :: r)) := fun r => by
      simp only [readFrom, if_neg ho]
      rfl
    cases readStep_none q wide c with
    | ends ds h => exact .ends (Char.ofNat v :: ds) fun r => by rw [he, h]; rfl
    | goesOn p' ds h =>
      exact .goesOn p' (Char.ofNat v :: ds) fun r => by
        rw [he, h, pushAll_pushAll, List.singleton_append]
    | refused h => exact .refused fun r => by rw [he, h]; rfl

theorem readStep_named (q : Char) (wide : Bool) (part : Text) (c : Char) :
    ReadStep q wide (.named part) c := by
  by_cases hb : c = '\x7d'
  · cases hn : charNamed? part.reverse with
    | none => exact .refused fun r => by rw [readFrom, if_pos hb, hn]
    | some e => exact .char e fun r => by rw [readFrom, if_pos hb, hn]
  by_cases hq : c = q ∨ isLineEnd c = true
  · exact .refused fun r => by rw [readFrom, if_neg hb, if_pos hq]
  · exact .silent (.named (c :: part)) fun r => by rw [readFrom, if_neg hb, if_neg hq]

/-- **What one character does to a reader** does not depend on what follows it. -/
theorem readStep (q : Char) (wide : Bool) (p : Pending) (c : Char) : ReadStep q wide p c := by
  cases p with
  | none => exact readStep_none q wide c
  | backslash => exact readStep_backslash q wide c
  | hex left v => exact readStep_hex q wide left v c
  | octal left v => exact readStep_octal q wide left v c
  | unnamed =>
    by_cases hb : c = '\x7b'
    · exact .silent (.named []) fun r => by rw [readFrom, if_pos hb]
    · exact .refused fun r => by rw [readFrom, if_neg hb]
  | named part => exact readStep_named q wide part c

end Step

/-- **What a literal is read as does not depend on what follows it.** -/
theorem readFrom_eq_some {wide : Bool} {p : Pending} {s t rest : Text}
    (h : readFrom q wide p s = some (t, rest)) :
    ∃ u, u ≠ [] ∧ s = u ++ rest ∧ ∀ r, readFrom q wide p (u ++ r) = some (t, r) := by
  induction s generalizing p t with
  | nil => cases p <;> cases h
  | cons c s ih =>
    cases readStep q wide p c with
    | ends ds he =>
      cases (he s).symm.trans h
      exact ⟨[c], by simp, rfl, he⟩
    | goesOn p' ds he =>
      rw [he] at h
      obtain ⟨⟨t', rest'⟩, hp, ht⟩ := Option.map_eq_some_iff.mp h
      cases ht
      obtain ⟨u, -, rfl, hu⟩ := ih hp
      exact ⟨c :: u, by simp, rfl, fun r => by rw [List.cons_append, he, hu]; rfl⟩
    | refused he =>
      rw [he] at h
      cases h

/-- The same for the literal of a byte string. -/
theorem readBytes?_eq_some {s rest : Text} {bs : List UInt8}
    (h : readBytes? q s = some (bs, rest)) :
    ∃ u, u ≠ [] ∧ s = u ++ rest ∧ ∀ r, readBytes? q (u ++ r) = some (bs, r) := by
  unfold readBytes? at h ⊢
  cases hs : readFrom q false .none s with
  | none => rw [hs] at h; cases h
  | some p =>
    obtain ⟨t, rest'⟩ := p
    rw [hs] at h
    cases h
    obtain ⟨u, hne, rfl, hu⟩ := readFrom_eq_some hs
    exact ⟨u, hne, rfl, fun r => by rw [hu]; rfl⟩

end Quoted

end Marginalia
