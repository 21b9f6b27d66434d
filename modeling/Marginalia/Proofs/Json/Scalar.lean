import Marginalia.Proofs.Json.Scan
import Marginalia.Json.Writer

/-!
# Single tokens of JSON text

What a punctuation mark, a word, an integer or a string is written with is one token, and the token
stands for what has been written. An integer ends where no digit, point or exponent follows.

## Main definitions

* `Json.Denotes`: a piece of text that is one token
* `Json.EndsNumeral`: what a numeral does not go on with

## Main results

* `Json.Denotes.passes`: what a token does to a reader
* `Json.denotes_quote`: a string stands for its text
* `Json.denotes_int`: the digits of an integer stand for it
-/

namespace Marginalia

namespace Json

variable {first pos : Nat} {c : Char} {r s t : Text} {token : Token} {reader reader' : Reader}

/-- The piece is the token, if what follows it is right. -/
def Denotes (follower : Text → Prop) (t : Text) (token : Token) : Prop :=
  ∃ c r, t = c :: r ∧ isGap c = false ∧
    ∀ pos rest, follower rest → next pos c (r ++ rest) = (token, pos + t.length, rest)

/-- **What a token does to a reader.** -/
theorem Denotes.passes {p : Text → Prop} (h : Denotes p t token)
    (hstep : ∀ pos, step reader ⟨pos, token⟩ = .ok reader') : Passes p t reader reader' := by
  obtain ⟨c, r, rfl, hgap, hnext⟩ := h
  exact fun pos rest hrest => Reader.scan_cons hgap (hnext pos rest hrest) (hstep pos)

/-- Anything may follow. -/
def Anything (_ : Text) : Prop := True

theorem denotes_punctuation (hgap : isGap c = false) (h : punctuation? c = some token) :
    Denotes Anything [c] token :=
  ⟨c, [], rfl, hgap, fun pos rest _ => by rw [next, List.nil_append, h]; rfl⟩

/-! ## Words -/

theorem denotes_null : Denotes Anything "null".toList (.scalar .none) :=
  ⟨'n', "ull".toList, rfl, rfl, fun _ _ _ => rfl⟩

theorem denotes_boolText (b : Bool) : Denotes Anything (boolText b) (.scalar (.bool b)) := by
  cases b with
  | true => exact ⟨'t', "rue".toList, rfl, rfl, fun _ _ _ => rfl⟩
  | false => exact ⟨'f', "alse".toList, rfl, rfl, fun _ _ _ => rfl⟩

/-! ## Strings -/

/-- The digits of a code escape stand for its number. -/
theorem stringFrom_hexWide {n : Nat} (hn : n < 0x10000) (hr : r ≠ []) (mark : Nat) :
    stringFrom first pos (.code mark 4 0) (Digits.hexWide false 4 n ++ r) =
      unit n (stringFrom first (pos + 4) .none r) := by
  have hd : ∀ m, Digits.hexValue? (Digits.hexDigit false (m % 16)) = some (m % 16) := fun m =>
    Digits.hexValue?_hexDigit false (Nat.mod_lt m (by decide))
  have hvalue : 16 * (16 * (16 * (n / 16 / 16 / 16 % 16) + n / 16 / 16 % 16) + n / 16 % 16) +
      n % 16 = n := by omega
  simp only [Digits.hexWide, List.nil_append, List.cons_append, stringFrom, hd]
  simp [hr, hvalue]

/-- A backslash and a letter stand for a code unit. -/
theorem stringFrom_letter {n : Nat} (hc : c ≠ 'u') (h : letterEscape? c = some n) :
    stringFrom first pos .none (Quoted.backslash :: c :: r) =
      unit n (stringFrom first (pos + 2) .none r) := by
  rw [stringFrom, if_neg (by decide), if_pos rfl, stringFrom, if_neg hc, h]

/-- **An escaped character stands for its code unit.** -/
theorem stringFrom_escape (c : Char) (hr : r ≠ []) : stringFrom first pos .none (escape c ++ r) =
    unit c.toNat (stringFrom first (pos + (escape c).length) .none r) := by
  unfold escape
  split
  · next h =>
    refine stringFrom_letter (fun hu => by simp [hu, Quoted.double, Quoted.backslash] at h) ?_
    rw [letterEscape?, if_pos (h.imp_right Or.inl)]
  split
  · next h => exact h ▸ stringFrom_letter (by decide) rfl
  split
  · next h => exact h ▸ stringFrom_letter (by decide) rfl
  split
  · next h => exact h ▸ stringFrom_letter (by decide) rfl
  split
  · next h => exact h ▸ stringFrom_letter (by decide) rfl
  split
  · next h => exact h ▸ stringFrom_letter (by decide) rfl
  split
  · -- a control character is written by its code point
    next h =>
    rw [Quoted.codeEscape, List.cons_append, List.cons_append, stringFrom, if_neg (by decide),
      if_pos rfl, stringFrom, if_pos rfl, stringFrom_hexWide (by omega) hr]
    simp [Nat.add_assoc]
  · next h _ _ _ _ _ hcontrol =>
    rw [List.singleton_append, stringFrom, if_neg fun hc => h (Or.inl hc),
      if_neg fun hc => h (Or.inr hc), if_neg hcontrol]
    rfl

theorem stringFrom_flatMap_escape (s r : Text) :
    stringFrom first pos .none (s.flatMap escape ++ Quoted.double :: r) =
      .ok (s.map Char.toNat, pos + (s.flatMap escape).length + 1, r) := by
  induction s generalizing pos with
  | nil => rfl
  | cons c s ih =>
    rw [List.flatMap_cons, List.append_assoc, stringFrom_escape c (by simp), ih, List.length_append,
      ← Nat.add_assoc]
    rfl

/-- **A string stands for its text.** -/
theorem denotes_quote (s : Text) : Denotes Anything (quote s) (.text s) := by
  refine ⟨Quoted.double, s.flatMap escape ++ [Quoted.double], rfl, by decide, fun pos rest _ => ?_⟩
  have hnext : ∀ t, next pos Quoted.double t = stringToken pos t := fun t => rfl
  rw [hnext, stringToken, List.append_assoc, List.singleton_append, stringFrom_flatMap_escape]
  dsimp only
  rw [characters_map_toNat]
  simp [quote]
  omega

/-! ## Integers -/

/-- No numeral goes on with this. -/
def EndsNumeral (rest : Text) : Prop :=
  ∀ c, rest.head? = some c → Digits.isDigit c = false ∧ c ≠ '.' ∧ c ≠ 'e' ∧ c ≠ 'E'

theorem wholeOf_decimal {rest : Text} (hrest : EndsNumeral rest) (n : Nat) :
    Numeral.wholeOf (Digits.decimal n ++ rest) = Digits.decimal n := by
  by_cases hn : n = 0
  · rw [hn]
    rfl
  · have htake : (Digits.decimal n ++ rest).takeWhile Digits.isDigit = Digits.decimal n := by
      rw [List.takeWhile_append_of_pos (Digits.decimal_isDigit n)]
      cases rest with
      | nil => simp
      | cons c r => rw [List.takeWhile_cons_of_neg (by simp [(hrest c rfl).1]), List.append_nil]
    obtain ⟨d, ds, hd, -⟩ := Digits.exists_decimal_eq_cons n
    have hhead := Digits.head?_decimal hn
    unfold Numeral.wholeOf
    split
    · next hzero => simp_all
    · exact htake

theorem fractionOf_of_endsNumeral {rest : Text} (hrest : EndsNumeral rest) :
    Numeral.fractionOf rest = [] := by
  unfold Numeral.fractionOf
  split
  · exact absurd rfl (hrest '.' rfl).2.1
  · rfl

theorem exponentOf_of_endsNumeral {rest : Text} (hrest : EndsNumeral rest) :
    Numeral.exponentOf rest = [] := by
  unfold Numeral.exponentOf
  split
  · rfl
  · next c r =>
    obtain ⟨-, -, he, hE⟩ := hrest c rfl
    simp [he, hE]

/-- The numeral at the front of a text after its sign. -/
def afterSign? (negative : Bool) (s : Text) : Option Numeral :=
  if (Numeral.wholeOf s).isEmpty then none
  else
    let fraction := Numeral.fractionOf (s.drop (Numeral.wholeOf s).length)
    some ⟨negative, Numeral.wholeOf s, fraction,
      Numeral.exponentOf ((s.drop (Numeral.wholeOf s).length).drop fraction.length)⟩

theorem atFront?_minus (r : Text) : Numeral.atFront? ('-' :: r) = afterSign? true r := rfl

theorem atFront?_of_ne (hc : c ≠ '-') (r : Text) :
    Numeral.atFront? (c :: r) = afterSign? false (c :: r) := by
  unfold Numeral.atFront?
  split
  next hsigned =>
  split at hsigned
  · next heq => exact absurd (List.cons.inj heq).1 hc
  · obtain ⟨rfl, rfl⟩ := Prod.mk.inj hsigned
    rfl

theorem afterSign?_decimal {rest : Text} (hrest : EndsNumeral rest) (negative : Bool) (n : Nat) :
    afterSign? negative (Digits.decimal n ++ rest) =
      some ⟨negative, Digits.decimal n, [], []⟩ := by
  have hne : (Digits.decimal n).isEmpty = false := by simpa using Digits.decimal_ne_nil n
  rw [afterSign?, wholeOf_decimal hrest, hne, List.drop_left, fractionOf_of_endsNumeral hrest]
  simp [exponentOf_of_endsNumeral hrest]

/-- Where a word stands in front the text starts like the word. -/
theorem startsWith_iff : Text.startsWith t s = true ↔ t <+: s := by
  rw [Text.startsWith, Option.isSome_iff_exists]
  simp only [Text.after?_eq_some_iff]
  exact ⟨fun ⟨r, h⟩ => ⟨r, h.symm⟩, fun ⟨r, h⟩ => ⟨r, h.symm⟩⟩

/-- No word starts with a digit, and none with a sign and a digit. -/
theorem wordAtFront?_of_digit (hc : Digits.isDigit c = true) (r : Text) :
    wordAtFront? (c :: r) = none ∧ wordAtFront? ('-' :: c :: r) = none := by
  have hwords : ∀ word ∈ wordValues, word.1 ≠ [] ∧ word.1 ≠ ['-'] ∧
      (word.1.take 2).all (fun d => !Digits.isDigit d) = true := by decide
  constructor <;> refine List.find?_eq_none.mpr fun word hmem hstarts => ?_
  all_goals
    obtain ⟨hne, hsign, hdigits⟩ := hwords word hmem
    obtain ⟨rest, hrest⟩ := startsWith_iff.mp hstarts
    obtain ⟨d, w, hd⟩ := List.exists_cons_of_ne_nil hne
    rw [hd, List.cons_append] at hrest
    obtain ⟨rfl, hw⟩ := List.cons.inj hrest.symm
  · simp [hd, hc] at hdigits
  · cases w with
    | nil => exact hsign hd
    | cons e w =>
      obtain ⟨rfl, -⟩ := List.cons.inj hw
      simp [hd, hc] at hdigits

theorem token_decimal {n : Nat} (hn : Digits.tooLong n = false) (negative : Bool) :
    Numeral.token ⟨negative, Digits.decimal n, [], []⟩ =
      .scalar (.int (if negative then -(n : Int) else n)) := by
  have hlen : ¬ Digits.maxDigits < (Digits.decimal n).length := by simpa [Digits.tooLong] using hn
  simp [Numeral.token, hlen, Digits.valueOf_decimal]

/-- A number is no punctuation mark and no string. -/
theorem next_of_digit (hc : Digits.isDigit c = true) (pos : Nat) (r : Text) :
    isGap c = false ∧ next pos c r = plainToken pos (c :: r) := by
  have hne : ∀ d, Digits.isDigit d = false → c ≠ d := fun d => Digits.ne_of_isDigit hc
  have hpunctuation : punctuation? c = none := by
    unfold punctuation?
    simp [hne '[' rfl, hne ']' rfl, hne '\x7b' rfl, hne '\x7d' rfl, hne ',' rfl, hne ':' rfl]
  constructor
  · simp [isGap, hne ' ' rfl, hne '\t' rfl, hne '\n' rfl, hne '\r' rfl]
  · rw [next, hpunctuation]
    exact if_neg (hne _ rfl)

/-- **The digits of an integer stand for it.** -/
theorem denotes_int {i : Int} (hi : Digits.tooLong i = false) :
    Denotes EndsNumeral (Digits.decimalInt i) (.scalar (.int i)) := by
  cases i with
  | ofNat n =>
    obtain ⟨d, ds, hd, hdigit⟩ := Digits.exists_decimal_eq_cons n
    refine ⟨d, ds, hd, (next_of_digit hdigit 0 []).1, fun pos rest hrest => ?_⟩
    have hfront := afterSign?_decimal hrest false n
    rw [(next_of_digit hdigit pos _).2, plainToken, (wordAtFront?_of_digit hdigit _).1,
      atFront?_of_ne (Digits.ne_of_isDigit hdigit rfl), ← List.cons_append, ← hd, hfront]
    dsimp only
    rw [token_decimal hi]
    simp [Numeral.text, Digits.decimalInt]
  | negSucc n =>
    obtain ⟨d, ds, hd, hdigit⟩ := Digits.exists_decimal_eq_cons (n + 1)
    refine ⟨'-', Digits.decimal (n + 1), rfl, rfl, fun pos rest hrest => ?_⟩
    have hword := (wordAtFront?_of_digit hdigit (ds ++ rest)).2
    have hnext : next pos '-' (Digits.decimal (n + 1) ++ rest) =
        plainToken pos ('-' :: (Digits.decimal (n + 1) ++ rest)) := rfl
    rw [← List.cons_append, ← hd] at hword
    rw [hnext, plainToken, hword, atFront?_minus, afterSign?_decimal hrest]
    dsimp only
    rw [token_decimal hi]
    simp [Numeral.text, Digits.decimalInt, Int.negSucc_eq]

end Json

end Marginalia
