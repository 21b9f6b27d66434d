import Marginalia.Proofs.Yaml.Quoted
import Marginalia.Yaml.Implicit

/-!
# Scalars read back

A reader of scalars finds the end of a scalar without knowing the column at which it starts, and
takes a plain text for a string only where no other form applies. It undoes every way in which
nothing, a truth value, an integer or a string is written.

## Main definitions

* `Yaml.cutPlain`: the lines of a plain scalar
* `Yaml.Scalar.ofPlain?`: what a plain text is read as
* `Yaml.Scalar.read?`: a scalar, and what follows it
* `Yaml.Scalar.IsFlat`: nothing, truth values, integers and strings

## Main results

* `Yaml.cutPlain_append`: a plain scalar ends where its lines end
* `Yaml.Scalar.read?_write`: a flat scalar reads back
-/

namespace Marginalia

namespace Yaml

variable {indent column : Nat} {split : Bool} {c d : Char} {r s t : Text}

/-! ## Plain texts -/

theorem anyPair_eq_false_of_imp {rel rel' : Char → Char → Bool}
    (h : ∀ c d, rel' c d = true → rel c d = true) (hs : s.anyPair rel = false) :
    s.anyPair rel' = false := by
  induction s with
  | nil => rfl
  | cons c s ih =>
    cases s with
    | nil => rfl
    | cons d s =>
      rw [anyPair_cons_cons, Bool.or_eq_false_iff] at hs ⊢
      exact ⟨Bool.eq_false_iff.mpr fun hrel => Bool.eq_false_iff.mp hs.1 (h c d hrel), ih hs.2⟩

/-- What a text that is written plain is like. -/
structure IsPlain (s : Text) : Prop where
  /-- It is not empty. -/
  ne_nil : s ≠ []
  /-- It starts with no space. -/
  solid : StartsSolid s
  /-- It holds no line breaks. -/
  oneLine : ∀ c ∈ s, isBreak c = false
  /-- It starts with no quote. -/
  quote : ∀ c ∈ s.head?, c ≠ '\'' ∧ c ≠ Quoted.double
  /-- It does not start like a key on a line of its own. -/
  mark : ∀ r, s ≠ '?' :: ' ' :: r
  /-- No colon in it stands before a space. -/
  colon : s.anyPair (fun c d => c == ':' && d == ' ') = false
  /-- It is read as a string. -/
  other : readsAsOther s = false

theorem startsSolid_of_blankEnds (h : blankEnds s = false) : StartsSolid s := by
  intro c hc
  rw [blankEnds, Bool.or_eq_false_iff, hc] at h
  exact h.1

theorem clash_eq_false_of_forall (h : ∀ c ∈ s, isBreak c = false) : s.anyPair clash = false := by
  induction s with
  | nil => rfl
  | cons c s ih =>
    rw [List.forall_mem_cons] at h
    cases s with
    | nil => rfl
    | cons d s =>
      rw [anyPair_cons_cons, ih h.2]
      simp [clash, h.1, h.2 d List.mem_cons_self]

/-- **A text is written plain** only if it is like this. -/
theorem isPlain_of_styleOf (h : styleOf s = .plain) : IsPlain s := by
  -- every check that a text passes to be written plain is one of the properties
  obtain ⟨hother, hallows⟩ := plain_of_styleOf h
  simp only [allowsPlain, Bool.and_eq_true, Bool.not_eq_true'] at hallows
  obtain ⟨⟨⟨-, hends⟩, hlines⟩, hindicator⟩ := hallows
  simp only [hasIndicator, Bool.or_eq_false_iff] at hindicator
  obtain ⟨⟨⟨⟨hstarts, -⟩, -⟩, -⟩, hpairs⟩ := hindicator
  refine ⟨?_, startsSolid_of_blankEnds hends, ?_, ?_, ?_, ?_, hother⟩
  · rintro rfl
    cases hother
  · intro c hc
    exact Bool.eq_false_iff.mpr fun hbreak =>
      Bool.eq_false_iff.mp hlines (List.any_eq_true.mpr ⟨c, hc, hbreak⟩)
  · intro c hc
    cases s with
    | nil => cases hc
    | cons d s =>
      obtain rfl := Option.some.inj hc
      constructor
      · rintro rfl
        exact absurd hstarts (by simp [startsIndicator])
      · rintro rfl
        exact absurd hstarts (by simp [startsIndicator, Quoted.double])
  · rintro r rfl
    exact absurd hstarts (by simp [startsIndicator, isGap])
  · refine anyPair_eq_false_of_imp (fun c d hpair => ?_) hpairs
    obtain ⟨hc, hd⟩ := (Bool.and_eq_true _ _).mp hpair
    obtain rfl := eq_of_beq hd
    have hgap : isGap ' ' = true := by decide
    simp [hc, hgap]

/-- The lines of a plain scalar, and what follows them: it goes on in indented lines only. -/
def cutPlain : Text → Text × Text
  | [] => ([], [])
  | c :: r =>
    if c = '\n' ∧ r.head? ≠ some ' ' then ([], c :: r)
    else (c :: (cutPlain r).1, (cutPlain r).2)

/-- What may follow a scalar: nothing, or a line that is not indented. -/
def EndsScalar (r : Text) : Prop := ∀ c s, r = c :: s → c = '\n' ∧ s.head? ≠ some ' '

theorem endsScalar_cons (h : s.head? ≠ some ' ') : EndsScalar ('\n' :: s) := by
  rintro c t ⟨⟩
  exact ⟨rfl, h⟩

theorem EndsScalar.head?_ne (h : EndsScalar r) (hc : c ≠ '\n') : r.head? ≠ some c := by
  cases r with
  | nil => nofun
  | cons d r => exact fun hd => hc (Option.some.inj hd ▸ (h d r rfl).1)

theorem EndsScalar.cutPlain_eq (h : EndsScalar r) : cutPlain r = ([], r) := by
  cases r with
  | nil => rfl
  | cons c r => exact if_pos (h c r rfl)

theorem cutPlain_cons (hc : c ≠ '\n') (r : Text) :
    cutPlain (c :: r) = (c :: (cutPlain r).1, (cutPlain r).2) := if_neg fun h => hc h.1

theorem cutPlain_spaces (n : Nat) (r : Text) :
    cutPlain (Text.spaces n ++ r) = (Text.spaces n ++ (cutPlain r).1, (cutPlain r).2) := by
  induction n with
  | zero => rfl
  | succ n ih =>
    change cutPlain (' ' :: (Text.spaces n ++ r)) = (' ' :: (Text.spaces n ++ (cutPlain r).1), _)
    rw [cutPlain_cons (by decide), ih]

/-- **A plain scalar ends where its lines end.** -/
theorem cutPlain_append (h : Folded indent s t) (hindent : 0 < indent)
    (hs : ∀ c ∈ s, isBreak c = false) (hr : EndsScalar r) : cutPlain (t ++ r) = (t, r) := by
  -- the only line feeds in the lines are those of folded spaces, and an indentation follows them
  induction h with
  | nil => exact hr.cutPlain_eq
  | @solid c s t hc h ih =>
    have hfeed : c ≠ '\n' := by
      rintro rfl
      exact absurd (hs '\n' List.mem_cons_self) (by decide)
    rw [List.cons_append, cutPlain_cons hfeed, ih (List.forall_mem_cons.mp hs).2]
  | spaces n hnext h ih =>
    rw [List.append_assoc, cutPlain_spaces, ih (List.forall_mem_append.mp hs).2]
  | @newLine s t hne hnext h ih =>
    obtain ⟨n, rfl⟩ := Nat.exists_eq_add_one.mpr hindent
    have hgoes : cutPlain (newLine (n + 1) ++ t ++ r) =
        ('\n' :: (cutPlain (Text.spaces (n + 1) ++ (t ++ r))).1,
          (cutPlain (Text.spaces (n + 1) ++ (t ++ r))).2) := by
      rw [List.append_assoc]
      exact if_neg fun h => h.2 rfl
    rw [hgoes, cutPlain_spaces, ih (List.forall_mem_cons.mp hs).2]
    rfl
  | @breaks run s t hne hrun =>
    obtain ⟨c, run, rfl⟩ := List.exists_cons_of_ne_nil hne
    have hc := hs c List.mem_cons_self
    rw [hrun c List.mem_cons_self] at hc
    cases hc

/-- Without line breaks and new lines runs stand as they are. -/
theorem writeRuns_eq_flatten {rest : List Text} (h : Foldable rest)
    (hs : ∀ c ∈ rest.flatten, isBreak c = false) (first : Bool) :
    writeRuns false false indent column first rest = rest.flatten := by
  induction h generalizing column first with
  | nil => rfl
  | spaces n hnext h ih =>
    rw [writeRuns_spaces, if_neg (by simp), ih (List.forall_mem_append.mp hs).2]
    rfl
  | @breaks run rest hne hrun =>
    obtain ⟨c, run, rfl⟩ := List.exists_cons_of_ne_nil hne
    have hc := hs c List.mem_cons_self
    rw [hrun c List.mem_cons_self] at hc
    cases hc
  | solid hne hrun h ih =>
    rw [writeRuns_solid _ _ _ _ hne hrun, ih (List.forall_mem_append.mp hs).2]
    rfl

namespace IsPlain

theorem quoted?_append (h : IsPlain s) (r : Text) : quoted? (s ++ r) = none := by
  obtain ⟨c, s, rfl⟩ := List.exists_cons_of_ne_nil h.ne_nil
  exact quoted?_eq_none h.quote

/-- A plain text, with a colon behind it, does not start like a key on a line of its own. -/
theorem after?_mark (h : IsPlain s) (r : Text) : Text.after? ['?', ' '] (s ++ ':' :: r) = none := by
  rw [Option.eq_none_iff_forall_ne_some]
  intro t ht
  rw [Text.after?_eq_some_iff] at ht
  obtain ⟨c, s, rfl⟩ := List.exists_cons_of_ne_nil h.ne_nil
  cases s with
  | nil => simp at ht
  | cons d s =>
    simp only [List.cons_append, List.cons.injEq] at ht
    exact h.mark s (by rw [ht.1, ht.2.1])

theorem foldable (h : IsPlain s) : Foldable (runs s) :=
  foldable_runs (clash_eq_false_of_forall h.oneLine)

/-- A plain text is written in lines. -/
theorem exists_writeText (h : IsPlain s) (hs : styleOf s = .plain) (split : Bool)
    (indent column : Nat) : ∃ t, writeText split indent column s = t ∧ Folded indent s t := by
  obtain ⟨t, ht, hfolded⟩ := exists_folded h.foldable false split indent column true
  refine ⟨t, ?_, runs_flatten s ▸ hfolded⟩
  rw [writeText, hs]
  exact ht

/-- On one line a plain text stands as it is. -/
theorem writeText_eq (h : IsPlain s) (hs : styleOf s = .plain) :
    writeText false indent column s = s := by
  rw [writeText, hs]
  exact (writeRuns_eq_flatten h.foldable (by simpa using h.oneLine) true).trans (runs_flatten s)

end IsPlain

/-! ## What a plain text is read as -/

/-- The value of decimal digits with a sign in front. -/
def signedValue : Text → Int
  | [] => 0
  | c :: r => if c = '-' then -(Digits.valueOf r : Int) else Digits.valueOf (c :: r)

theorem signedValue_decimalInt (i : Int) : signedValue (Digits.decimalInt i) = i := by
  cases i with
  | ofNat n =>
    obtain ⟨c, r, h, hc⟩ := Digits.exists_decimal_eq_cons n
    rw [Digits.decimalInt, h, signedValue, if_neg (Digits.ne_of_isDigit hc rfl), ← h,
      Digits.valueOf_decimal]
    rfl
  | negSucc n =>
    rw [Digits.decimalInt, signedValue, if_pos rfl, Digits.valueOf_decimal]
    rfl

/-- The integer of a decimal text. -/
def int? (s : Text) : Option Int :=
  if Digits.decimalInt (signedValue s) = s then some (signedValue s) else none

/-- **Decimal texts are read as their integers**, and other texts as no integer. -/
theorem int?_eq_some_iff {i : Int} : int? s = some i ↔ s = Digits.decimalInt i := by
  unfold int?
  constructor
  · intro h
    split at h
    · next hs => rw [← Option.some.inj h, hs]
    · cases h
  · rintro rfl
    rw [signedValue_decimalInt, if_pos rfl]

theorem isPlainInt_decimal (n : Nat) : isPlainInt (Digits.decimal n) = true := by
  by_cases hn : n = 0
  · subst hn
    rfl
  obtain ⟨c, r, h, hc⟩ := Digits.exists_decimal_eq_cons n
  have hzero : c ≠ '0' := by
    simpa [h] using Digits.head?_decimal hn
  have hdigits : ∀ d ∈ r, isDigitOrBar d = true := fun d hd => by
    have := Digits.decimal_isDigit n d (h ▸ List.mem_cons_of_mem c hd)
    simp [isDigitOrBar, this]
  rw [h, isPlainInt]
  · rw [isGrouped, hc, Bool.true_and, List.all_eq_true]
    exact hdigits
  all_goals simp [hzero]

/-- An integer is read as something else than a string. -/
theorem isInt_decimalInt (i : Int) : isInt (Digits.decimalInt i) = true := by
  have hsign : ∃ n, dropSign (Digits.decimalInt i) = Digits.decimal n := by
    cases i with
    | ofNat n =>
      obtain ⟨c, r, h, hc⟩ := Digits.exists_decimal_eq_cons n
      have hne : ¬ (c = '-' ∨ c = '+') := not_or.mpr
        ⟨Digits.ne_of_isDigit hc rfl, Digits.ne_of_isDigit hc rfl⟩
      exact ⟨n, by rw [Digits.decimalInt, h, dropSign, if_neg hne]⟩
    | negSucc n => exact ⟨n + 1, rfl⟩
  obtain ⟨n, hn⟩ := hsign
  simp [isInt, hn, isPlainInt_decimal]

namespace Scalar

/-- The scalar that a plain text is read as. Numbers that are not decimal integers and dates are no
scalars here. -/
def ofPlain? (s : Text) : Option Scalar :=
  match int? s with
  | some i => some (.int i)
  | none =>
    if isNull s then some .null
    else if isBool s then some (.bool (oneOf ["yes", "Yes", "YES", "true", "True", "TRUE", "on",
      "On", "ON"] s))
    else if readsAsOther s then none
    else some (.text s)

/-- A text that is read as a string is read as itself. -/
theorem ofPlain?_text (h : readsAsOther s = false) : ofPlain? s = some (.text s) := by
  -- the writer quotes whatever looks like a number, so nothing is left to the reader but the string
  have hint : int? s = none := by
    rw [Option.eq_none_iff_forall_ne_some]
    intro i hi
    obtain rfl := int?_eq_some_iff.mp hi
    simp [readsAsOther, isInt_decimalInt] at h
  have hother := h
  simp only [readsAsOther, Bool.or_eq_false_iff] at hother
  obtain ⟨⟨⟨⟨⟨hnull, hbool⟩, -⟩, -⟩, -⟩, -⟩ := hother
  simp [ofPlain?, hint, hnull, hbool, h]

/-- Nothing, a truth value, an integer or a string. -/
def IsFlat : Scalar → Prop
  | float _ => False
  | binary _ => False
  | _ => True

/-- **The words for nothing, truth values and integers** are read as what they stand for. -/
theorem ofPlain?_word {a : Scalar} (ha : a.IsFlat) (htext : ∀ s, a ≠ .text s) :
    ofPlain? a.word = some a := by
  cases a with
  | null => decide
  | bool b => cases b <;> decide
  | int i => rw [word, ofPlain?, int?_eq_some_iff.mpr rfl]
  | text s => exact absurd rfl (htext s)
  | float x => exact ha.elim
  | binary bs => exact ha.elim

/-! ## Scalars -/

/-- A scalar, and what follows it. -/
def read? (s : Text) : Option (Scalar × Text) :=
  match quoted? s with
  | some (t, r) => some (.text t, r)
  | none => (ofPlain? (unfold .text (cutPlain s).1)).map fun a => (a, (cutPlain s).2)

/-- A plain scalar reads back as what its text is read as. -/
theorem read?_of_folded (h : Folded indent s t) (hindent : 0 < indent) (hne : s ≠ [])
    (hsolid : StartsSolid s) (hs : ∀ c ∈ s, isBreak c = false)
    (hquote : ∀ c ∈ s.head?, c ≠ '\'' ∧ c ≠ Quoted.double) (hr : EndsScalar r) :
    read? (t ++ r) = (ofPlain? s).map fun a => (a, r) := by
  have hhead := h.head?_eq hsolid
  obtain ⟨c, s, rfl⟩ := List.exists_cons_of_ne_nil hne
  obtain ⟨t, rfl⟩ := List.head?_eq_some_iff.mp hhead
  have hnone : quoted? (c :: t ++ r) = none := quoted?_eq_none hquote
  unfold read?
  rw [hnone, cutPlain_append h hindent hs hr]
  dsimp only
  rw [h.unfold_eq]

/-- The words for nothing, truth values and integers hold no blanks, line breaks or quotes. -/
theorem word_solid {a : Scalar} (ha : a.IsFlat) (htext : ∀ s, a ≠ .text s) :
    a.word ≠ [] ∧ ∀ c ∈ a.word, isSpaceOrBreak c = false ∧ c ≠ '\'' ∧ c ≠ Quoted.double := by
  have hdigit : ∀ c, Digits.isDigit c = true →
      isSpaceOrBreak c = false ∧ c ≠ '\'' ∧ c ≠ Quoted.double := by
    intro c hc
    refine ⟨Bool.eq_false_iff.mpr fun h => ?_, Digits.ne_of_isDigit hc rfl,
      Digits.ne_of_isDigit hc rfl⟩
    simp only [isSpaceOrBreak, isBreak, Bool.or_eq_true, beq_iff_eq, List.contains_iff_mem,
      List.mem_cons, List.not_mem_nil, or_false] at h
    simp only [Digits.isDigit, Bool.and_eq_true, decide_eq_true_eq] at hc
    rcases h with rfl | h
    · exact absurd hc.1 (by decide)
    · omega
  cases a with
  | null => decide
  | bool b => cases b <;> decide
  | int i =>
    cases i with
    | ofNat n =>
      exact ⟨Digits.decimal_ne_nil n, fun c hc => hdigit c (Digits.decimal_isDigit n c hc)⟩
    | negSucc n =>
      refine ⟨List.cons_ne_nil _ _, List.forall_mem_cons.mpr ⟨by decide, fun c hc => ?_⟩⟩
      exact hdigit c (Digits.decimal_isDigit (n + 1) c hc)
  | text s => exact absurd rfl (htext s)
  | float x => exact ha.elim
  | binary bs => exact ha.elim

/-- **A flat scalar reads back**, whatever the column is and wherever its lines end. -/
theorem read?_write {a : Scalar} (ha : a.IsFlat) (hindent : 0 < indent) (hwidth : indent < width)
    (hr : EndsScalar r) : read? (a.write split indent column ++ r) = some (a, r) := by
  by_cases htext : ∃ s, a = .text s
  · obtain ⟨s, rfl⟩ := htext
    change read? (writeText split indent column s ++ r) = _
    by_cases hs : styleOf s = .plain
    · have hplain := isPlain_of_styleOf hs
      obtain ⟨t, ht, hfolded⟩ := hplain.exists_writeText hs split indent column
      rw [ht, read?_of_folded hfolded hindent hplain.ne_nil hplain.solid hplain.oneLine hplain.quote
        hr, ofPlain?_text hplain.other]
      rfl
    · rw [read?, quoted?_writeText hs hwidth (hr.head?_ne (by decide))]
  · -- a word holds nothing to fold, so it is one way to write itself in lines
    have htext : ∀ s, a ≠ .text s := fun s hs => htext ⟨s, hs⟩
    obtain ⟨hne, hword⟩ := word_solid ha htext
    have hwrite : a.write split indent column = a.word := by
      cases a with
      | text s => exact absurd rfl (htext s)
      | binary bs => exact ha.elim
      | _ => rfl
    have hfolded : Folded indent (a.word ++ []) (a.word ++ []) :=
      Folded.nil.solids fun c hc => (hword c hc).1
    rw [List.append_nil] at hfolded
    rw [hwrite, read?_of_folded hfolded hindent hne
      (fun c hc => (hword c (List.mem_of_mem_head? hc)).1)
      (fun c hc => (isSpaceOrBreak_eq_false_iff.mp (hword c hc).1).2)
      (fun c hc => (hword c (List.mem_of_mem_head? hc)).2) hr, ofPlain?_word ha htext]
    rfl

end Scalar

end Yaml

end Marginalia
