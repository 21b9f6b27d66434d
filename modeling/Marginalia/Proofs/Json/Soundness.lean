import Mathlib.Algebra.Group.Nat.Defs
import Mathlib.Tactic.SplitIfs
import Marginalia.Json.Reader
import Marginalia.Proofs.Value.Parts

/-!
# What can be read

A value that is read from a JSON text holds neither references nor objects, and everything in it can
be spelled. Reading fails over the form of the text, at a position, or over an integer of too many
digits; the text then holds a run of as many digits.

## Main definitions

* `Json.HasDigits`: texts with a run of digits of some length
* `Json.IsSound`: values without references that can be spelled

## Main results

* `Json.comes_step`: what one step of reading comes to
* `Json.hasDigits_of_read`: only a long run of digits makes an integer too long
* `Json.isSound_of_read`: what has been read can be spelled
-/

namespace Marginalia

namespace Digits

theorem valueFrom_lt {ds : Text} (h : ∀ c ∈ ds, isDigit c = true) (acc : Nat) :
    valueFrom acc ds < (acc + 1) * 10 ^ ds.length := by
  induction ds generalizing acc with
  | nil => simp
  | cons c ds ih =>
    obtain ⟨hc, hds⟩ := List.forall_mem_cons.mp h
    have hvalue : value c < 10 := by
      simp only [isDigit, Bool.and_eq_true, decide_eq_true_eq] at hc
      unfold value
      omega
    rw [valueFrom_cons, List.length_cons, Nat.pow_succ']
    calc valueFrom (10 * acc + value c) ds
        < (10 * acc + value c + 1) * 10 ^ ds.length := ih hds _
      _ ≤ ((acc + 1) * 10) * 10 ^ ds.length := Nat.mul_le_mul_right _ (by omega)
      _ = (acc + 1) * (10 * 10 ^ ds.length) := Nat.mul_assoc ..

/-- The value of some digits has no more digits than these. -/
theorem valueOf_lt {ds : Text} (h : ∀ c ∈ ds, isDigit c = true) : valueOf ds < 10 ^ ds.length := by
  simpa [valueOf] using valueFrom_lt h 0

theorem length_decimalOnto_le {fuel n k : Nat} (tail : Text) (hn : n < 10 ^ k) (hk : 0 < k) :
    (decimalOnto fuel n tail).length ≤ k + tail.length := by
  induction fuel generalizing n k tail with
  | zero => simp [decimalOnto]
  | succ fuel ih =>
    rw [decimalOnto]
    split
    · rw [List.length_cons]
      omega
    · next hten =>
      obtain ⟨k, rfl⟩ : ∃ j, k = j + 1 := ⟨k - 1, by omega⟩
      have hpow : 10 ^ (k + 1) = 10 ^ k * 10 := Nat.pow_succ ..
      -- one digit alone would not reach ten
      have hk : 0 < k := by
        rcases Nat.eq_zero_or_pos k with rfl | hk
        · omega
        · exact hk
      have hstep := ih (n := n / 10) (digit (n % 10) :: tail) (by omega) hk
      rw [List.length_cons] at hstep
      omega

/-- A number below a power of ten has no more digits than its exponent says. -/
theorem length_decimal_le {n k : Nat} (hn : n < 10 ^ k) (hk : 0 < k) : (decimal n).length ≤ k :=
  length_decimalOnto_le [] hn hk

end Digits

namespace Json

variable {s : Text} {v : Value} {e : ReadFault} {n : Nat}

/-- The text holds a run of digits of this length. -/
def HasDigits (n : Nat) (s : Text) : Prop :=
  ∃ ds : Text, ds <:+: s ∧ ds.length = n ∧ ∀ c ∈ ds, Digits.isDigit c = true

theorem HasDigits.mono {t : Text} (h : HasDigits n s) (hst : s <:+: t) : HasDigits n t := by
  obtain ⟨ds, hds, hrest⟩ := h
  exact ⟨ds, hds.trans hst, hrest⟩

/-- The value holds neither references nor objects and can be spelled. -/
def IsSound (v : Value) : Prop := v.plain = true ∧ v.speakable = true

/-- The fault concerns the form of the text. -/
def ReadFault.IsMalformed (e : ReadFault) : Prop := ∃ complaint pos, e = .malformed complaint pos

theorem isMalformed (complaint : Complaint) (pos : Nat) :
    (ReadFault.malformed complaint pos).IsMalformed := ⟨complaint, pos, rfl⟩

/-! ## Tokens -/

/-- The digits at the front of a text are digits. -/
theorem wholeOf_prefix (s : Text) :
    Numeral.wholeOf s <+: s ∧ ∀ c ∈ Numeral.wholeOf s, Digits.isDigit c = true := by
  unfold Numeral.wholeOf
  split
  · next r =>
    constructor
    · exact ⟨r, rfl⟩
    · intro c hc
      obtain rfl := List.mem_singleton.mp hc
      decide
  · exact ⟨List.takeWhile_prefix _, List.all_eq_true.mp List.all_takeWhile⟩

/-- The digits of a numeral stand in the text. -/
theorem whole_of_atFront? {numeral : Numeral} (h : Numeral.atFront? s = some numeral) :
    numeral.whole ≠ [] ∧ numeral.whole <:+: s ∧
      ∀ c ∈ numeral.whole, Digits.isDigit c = true := by
  -- the digits are looked for in an end of the text, behind a sign if there is one
  have key : ∀ (negative : Bool) (r : Text), r <:+ s →
      (if (Numeral.wholeOf r).isEmpty then none else some (⟨negative, Numeral.wholeOf r,
        Numeral.fractionOf (r.drop (Numeral.wholeOf r).length), Numeral.exponentOf
        ((r.drop (Numeral.wholeOf r).length).drop (Numeral.fractionOf
          (r.drop (Numeral.wholeOf r).length)).length)⟩ : Numeral)) = some numeral →
      numeral.whole ≠ [] ∧ numeral.whole <:+: s ∧
        ∀ c ∈ numeral.whole, Digits.isDigit c = true := by
    intro negative r hr h
    split at h
    · cases h
    · next hne =>
      obtain rfl := Option.some.inj h
      obtain ⟨hpre, hdigit⟩ := wholeOf_prefix r
      exact ⟨by simpa using hne, hpre.isInfix.trans hr.isInfix, hdigit⟩
  unfold Numeral.atFront? at h
  dsimp only at h
  split at h
  · next r => exact key true r (List.suffix_cons _ r) h
  · exact key false _ (List.suffix_refl _) h

/-- What the token of a numeral can be. -/
theorem token_cases (numeral : Numeral)
    (h : ∀ c ∈ numeral.whole, Digits.isDigit c = true) (hne : numeral.whole ≠ []) :
    (∃ v, numeral.token = .scalar v ∧ IsSound v) ∨
      numeral.token = .broken (.tooLong numeral.whole.length) ∧
        Digits.maxDigits < numeral.whole.length := by
  unfold Numeral.token
  split
  · split
    · next hlong => exact Or.inr ⟨rfl, hlong⟩
    · next hshort =>
      have hlength := Digits.length_decimal_le (Digits.valueOf_lt h) (List.length_pos_iff.mpr hne)
      refine Or.inl ⟨_, rfl, rfl, ?_⟩
      have htoo : ∀ i : Int, i.natAbs = Digits.valueOf numeral.whole →
          (Value.int i).speakable = true := by
        intro i hi
        simp only [Value.speakable, Digits.tooLong, hi, Bool.not_eq_true', decide_eq_false_iff_not]
        omega
      split
      · exact htoo _ (by simp)
      · exact htoo _ (by simp)
  · exact Or.inl ⟨_, rfl, rfl, rfl⟩

theorem isSound_of_wordAtFront? {word : Text × Value} (h : wordAtFront? s = some word) :
    IsSound word.2 := by
  have hall : ∀ w ∈ wordValues, IsSound w.2 := by
    unfold IsSound
    decide
  exact hall word (List.mem_of_find?_eq_some h)

/-- A string is broken in its form only, and what follows it is an end of the text. -/
def Leaves (s : Text) : Except ReadFault Units → Prop
  | .ok (_, _, rest) => rest <:+ s
  | .error e => e.IsMalformed

theorem Leaves.cons {x : Except ReadFault Units} (h : Leaves s x) (c : Char) :
    Leaves (c :: s) x := by
  rcases x with e | ⟨units, stop, rest⟩
  · exact h
  · exact List.IsSuffix.trans h (List.suffix_cons c s)

theorem Leaves.unit {x : Except ReadFault Units} (h : Leaves s x) (n : Nat) :
    Leaves s (unit n x) := by
  rcases x with e | ⟨units, stop, rest⟩
  · exact h
  · exact h

theorem leaves_stringFrom (first pos : Nat) (p : Pending) (s : Text) :
    Leaves s (stringFrom first pos p s) := by
  fun_induction stringFrom first pos p s with
  -- a string that goes on leaves an end of what follows the character, and else it ends or fails
  | case1 | case2 | case3 => exact isMalformed _ _
  | case4 pos r => exact List.suffix_cons _ _
  | case5 pos r _ ih => exact ih.cons _
  | case6 => exact isMalformed _ _
  | case7 pos c r _ _ _ ih => exact (ih.cons c).unit _
  | case8 pos r ih => exact ih.cons _
  | case9 pos c r _ n _ ih => exact (ih.cons c).unit _
  | case10 => exact isMalformed _ _
  | case11 => exact isMalformed _ _
  | case12 pos mark left value c r d _ _ ih => exact ih.cons c
  | case13 => exact isMalformed _ _
  | case14 pos mark left value c r d _ _ _ ih => exact (ih.cons c).unit _

/-- What a token can be: a sound value, a mark or a string, or one of two faults. -/
structure Token.IsProper (t : Token) (s : Text) : Prop where
  /-- What it stands for is sound. -/
  scalar : ∀ v, t = .scalar v → IsSound v
  /-- It is broken in its form, or over a long run of digits. -/
  broken : ∀ e, t = .broken e → e.IsMalformed ∨
    ∃ n, e = .tooLong n ∧ Digits.maxDigits < n ∧ HasDigits n s

theorem Token.IsProper.mono {t : Token} {u : Text} (h : t.IsProper s) (hsu : s <:+: u) :
    t.IsProper u := by
  refine ⟨h.scalar, fun e he => ?_⟩
  rcases h.broken e he with hform | ⟨n, hn, hmax, hdigits⟩
  · exact Or.inl hform
  · exact Or.inr ⟨n, hn, hmax, hdigits.mono hsu⟩

/-- Words, numerals and stray characters are proper tokens. -/
theorem isProper_plainToken (pos : Nat) (s : Text) :
    (plainToken pos s).1.IsProper s ∧ (plainToken pos s).2.2 <:+ s := by
  unfold plainToken
  split
  · next word v hword =>
    refine ⟨⟨fun w hw => ?_, nofun⟩, List.drop_suffix _ _⟩
    obtain rfl := Token.scalar.inj hw
    exact isSound_of_wordAtFront? hword
  · split
    · next numeral hnumeral =>
      obtain ⟨hne, hinfix, hdigit⟩ := whole_of_atFront? hnumeral
      refine ⟨?_, List.drop_suffix _ _⟩
      rcases token_cases numeral hdigit hne with ⟨v, hv, hsound⟩ | ⟨hbroken, hmax⟩
      · refine ⟨fun w hw => ?_, fun e he => ?_⟩
        · obtain rfl := Token.scalar.inj (hv.symm.trans hw)
          exact hsound
        · cases hv.symm.trans he
      · refine ⟨fun w hw => ?_, fun e he => ?_⟩
        · cases hbroken.symm.trans hw
        · obtain rfl := Token.broken.inj (hbroken.symm.trans he)
          exact Or.inr ⟨_, rfl, hmax, numeral.whole, hinfix, rfl, hdigit⟩
    · exact ⟨⟨nofun, nofun⟩, List.nil_suffix⟩

/-- Punctuation marks are proper tokens. -/
theorem isProper_punctuation {c : Char} {token : Token} (h : punctuation? c = some token) :
    token.IsProper s := by
  unfold punctuation? at h
  split_ifs at h <;> obtain rfl := Option.some.inj h <;> exact ⟨nofun, nofun⟩

/-- **Every token is proper**, and what follows it is an end of the text. -/
theorem isProper_next (pos : Nat) (c : Char) (r : Text) :
    (next pos c r).1.IsProper (c :: r) ∧ (next pos c r).2.2 <:+ c :: r := by
  unfold next
  split
  · next token htoken =>
    exact ⟨isProper_punctuation htoken, List.suffix_cons c r⟩
  · split
    · unfold stringToken
      have hleaves := leaves_stringFrom pos (pos + 1) .none r
      split
      · next units stop rest hok =>
        rw [hok] at hleaves
        exact ⟨⟨nofun, nofun⟩, List.IsSuffix.trans hleaves (List.suffix_cons c r)⟩
      · next e herror =>
        rw [herror] at hleaves
        refine ⟨⟨nofun, fun e' he => Or.inl ?_⟩, List.nil_suffix⟩
        obtain rfl := Token.broken.inj he
        exact hleaves
    · exact isProper_plainToken pos (c :: r)

theorem isProper_of_mem_tokens {p : Placed} (h : p ∈ tokens s) : p.token.IsProper s := by
  -- what is left at any step is an end of the text, so its runs of digits are runs of the text
  have go : ∀ (fuel pos : Nat) (t : Text), t <:+ s → p ∈ tokensFrom fuel pos t →
      p.token.IsProper s := by
    intro fuel
    induction fuel with
    | zero => intro pos t _ hp; cases hp
    | succ fuel ih =>
      intro pos t ht hp
      cases t with
      | nil => cases hp
      | cons c r =>
        rw [tokensFrom] at hp
        split at hp
        · exact ih _ r ((List.suffix_cons c r).trans ht) hp
        · obtain ⟨hproper, hrest⟩ := isProper_next pos c r
          rcases List.mem_cons.mp hp with rfl | hp
          · exact hproper.mono ht.isInfix
          · exact ih _ _ (hrest.trans ht) hp
  exact go _ _ s (List.suffix_refl s) h

/-! ## Steps -/

/-- What an open array or object has taken so far is sound. -/
def Frame.IsSound : Frame → Prop
  | .array items => ∀ v ∈ items, Json.IsSound v
  | .member entries _ => ∀ e ∈ entries, Json.IsSound e.1 ∧ Json.IsSound e.2

/-- What has been read just now is sound. -/
def Stage.IsSound : Stage → Prop
  | .key entries | .colon entries _ => ∀ e ∈ entries, Json.IsSound e.1 ∧ Json.IsSound e.2
  | .after v => Json.IsSound v
  | _ => True

/-- Everything that the reader has taken is sound. -/
structure Reader.IsSound (r : Reader) : Prop where
  frames : ∀ f ∈ r.frames, f.IsSound
  stage : r.stage.IsSound

theorem isSound_text (t : Text) : IsSound (.text t) := ⟨rfl, rfl⟩

theorem isSound_list {items : List Value} (h : ∀ v ∈ items, IsSound v) : IsSound (.list items) :=
  ⟨Value.plainAll_iff.mpr fun v hv => (h v hv).1, Value.speakableAll_iff.mpr fun v hv => (h v hv).2⟩

theorem isSound_dict {entries : Entries} (h : ∀ e ∈ entries, IsSound e.1 ∧ IsSound e.2) :
    IsSound (.dict entries) :=
  ⟨Value.plainEntries_iff.mpr fun e he => ⟨(h e he).1.1, (h e he).2.1⟩,
    Value.speakableEntries_iff.mpr fun e he => ⟨(h e he).1.2, (h e he).2.2⟩⟩

/-- What a sound dictionary holds is sound. -/
theorem isSound_of_mem {entries : Entries} (h : IsSound (.dict entries)) {e : Value × Value}
    (he : e ∈ entries) : IsSound e.2 :=
  ⟨(Value.plainEntries_iff.mp h.1 e he).2, (Value.speakableEntries_iff.mp h.2 e he).2⟩

/-- A member that is put among sound ones leaves them sound. -/
theorem isSound_insert {entries : Entries} (key : Text) (hv : IsSound v)
    (h : ∀ e ∈ entries, IsSound e.1 ∧ IsSound e.2) :
    ∀ e ∈ Value.insert (.text key) v entries, IsSound e.1 ∧ IsSound e.2 := by
  induction entries with
  | nil =>
    rw [Value.insert]
    exact List.forall_mem_singleton.mpr ⟨isSound_text key, hv⟩
  | cons e rest ih =>
    obtain ⟨he, hrest⟩ := List.forall_mem_cons.mp h
    rw [Value.insert]
    split
    · exact List.forall_mem_cons.mpr ⟨⟨he.1, hv⟩, hrest⟩
    · exact List.forall_mem_cons.mpr ⟨he, ih hrest⟩

/-- What a step of reading comes to: a sound reader, or a fault of the token or of its place. -/
def Comes (t : Token) : Except ReadFault Reader → Prop
  | .ok r => r.IsSound
  | .error e => e.IsMalformed ∨ t = .broken e

theorem comes_beginValue {frames : List Frame} {complaint : ReadFault} {t : Token}
    (hframes : ∀ f ∈ frames, f.IsSound) (hc : complaint.IsMalformed)
    (ht : ∀ v, t = .scalar v → IsSound v) : Comes t (beginValue frames complaint t) := by
  cases t with
  | openArray | openObject => exact ⟨hframes, trivial⟩
  | text u => exact ⟨hframes, isSound_text u⟩
  | scalar v => exact ⟨hframes, ht v rfl⟩
  | broken e => exact Or.inr rfl
  | _ => exact Or.inl hc

theorem comes_beginMember {frames : List Frame} {entries : Entries} {complaint : ReadFault}
    {t : Token} (hframes : ∀ f ∈ frames, f.IsSound)
    (hentries : ∀ e ∈ entries, IsSound e.1 ∧ IsSound e.2) (hc : complaint.IsMalformed) :
    Comes t (beginMember frames entries complaint t) := by
  unfold beginMember
  split
  · exact ⟨hframes, hentries⟩
  · exact Or.inr rfl
  · exact Or.inl hc

theorem comes_follow {frames : List Frame} {frame : Frame} {complaint : ReadFault} {t : Token}
    (hv : IsSound v) (hframe : frame.IsSound) (hframes : ∀ f ∈ frames, f.IsSound)
    (hc : complaint.IsMalformed) : Comes t (follow v frames complaint frame t) := by
  unfold follow
  split
  · refine ⟨List.forall_mem_cons.mpr ⟨?_, hframes⟩, trivial⟩
    exact List.forall_mem_append.mpr ⟨hframe, List.forall_mem_singleton.mpr hv⟩
  · refine ⟨hframes, isSound_list ?_⟩
    exact List.forall_mem_append.mpr ⟨hframe, List.forall_mem_singleton.mpr hv⟩
  · exact ⟨hframes, isSound_insert _ hv hframe⟩
  · exact ⟨hframes, isSound_dict (isSound_insert _ hv hframe)⟩
  · exact Or.inl hc

/-- **One step of reading** keeps the reader sound, or fails over the token or its place. -/
theorem comes_step {r : Reader} {t : Placed} (hr : r.IsSound)
    (ht : ∀ v, t.token = .scalar v → IsSound v) : Comes t.token (step r t) := by
  obtain ⟨frames, stage⟩ := r
  obtain ⟨hframes, hstage⟩ := hr
  have hc := isMalformed (Reader.complaint ⟨frames, stage⟩) t.pos
  unfold step
  dsimp only
  split
  · exact ⟨hframes, isSound_list (List.forall_mem_nil _)⟩
  · exact comes_beginValue (List.forall_mem_cons.mpr ⟨List.forall_mem_nil _, hframes⟩) hc ht
  · exact ⟨hframes, isSound_dict (List.forall_mem_nil _)⟩
  · exact comes_beginMember hframes (List.forall_mem_nil _) hc
  · exact comes_beginValue hframes hc ht
  · exact comes_beginMember hframes hstage hc
  · exact ⟨List.forall_mem_cons.mpr ⟨hstage, hframes⟩, trivial⟩
  · exact Or.inl hc
  · split
    · exact Or.inl hc
    · obtain ⟨hframe, hframes⟩ := List.forall_mem_cons.mp hframes
      exact comes_follow hstage hframe hframes hc

/-- **Reading** keeps the reader sound, or fails over a token or its place. -/
theorem comes_runFrom {r : Reader} {ts : List Placed} (hr : r.IsSound)
    (ht : ∀ t ∈ ts, t.token.IsProper s) :
    match runFrom r ts with
    | .ok r => r.IsSound
    | .error e => e.IsMalformed ∨ ∃ t ∈ ts, t.token = .broken e := by
  induction ts generalizing r with
  | nil => exact hr
  | cons t ts ih =>
    obtain ⟨hhead, htail⟩ := List.forall_mem_cons.mp ht
    have hstep := comes_step hr hhead.scalar
    rw [runFrom]
    cases hs : step r t with
    | error e =>
      rw [hs] at hstep
      exact hstep.imp_right fun h => ⟨t, List.mem_cons_self, h⟩
    | ok r' =>
      rw [hs] at hstep
      have hrest := ih hstep htail
      dsimp only
      cases hrun : runFrom r' ts with
      | error e =>
        -- a broken token among the rest is one among all of them
        rw [hrun] at hrest
        refine hrest.imp_right fun hbroken => ?_
        obtain ⟨t, hmem, h⟩ := hbroken
        exact ⟨t, List.mem_cons_of_mem _ hmem, h⟩
      | ok r'' =>
        rw [hrun] at hrest
        exact hrest

/-! ## Whole texts -/

theorem comes_runFrom_tokens (s : Text) :
    match runFrom Reader.start (tokens s) with
    | .ok r => r.IsSound
    | .error e => e.IsMalformed ∨ ∃ t ∈ tokens s, t.token = .broken e :=
  comes_runFrom ⟨nofun, trivial⟩ fun _ => isProper_of_mem_tokens

/-- **What has been read** holds neither references nor objects and can be spelled. -/
theorem isSound_of_read (h : read s = .ok v) : IsSound v := by
  have hrun := comes_runFrom_tokens s
  unfold read at h
  split at h
  · cases h
  · split at h
    · cases h
    · next r hr =>
      rw [hr] at hrun
      unfold Reader.finish at h
      split at h
      · next hstage _ =>
        obtain rfl := Except.ok.inj h
        have hsound := hrun.stage
        rwa [hstage] at hsound
      · cases h

/-- **Only a long run of digits** makes an integer too long. -/
theorem hasDigits_of_read (h : read s = .error (.tooLong n)) :
    Digits.maxDigits < n ∧ HasDigits n s := by
  have hrun := comes_runFrom_tokens s
  unfold read at h
  split at h
  · cases h
  · split at h
    · next e he =>
      obtain rfl := Except.error.inj h
      rw [he] at hrun
      rcases hrun with ⟨complaint, pos, hform⟩ | ⟨t, hmem, htoken⟩
      · cases hform
      · rcases (isProper_of_mem_tokens hmem).broken _ htoken with ⟨complaint, pos, hform⟩ | hlong
        · cases hform
        · obtain ⟨m, hm, hrest⟩ := hlong
          obtain rfl := ReadFault.tooLong.inj hm
          exact hrest
    · unfold Reader.finish at h
      split at h <;> cases h

end Json

end Marginalia
