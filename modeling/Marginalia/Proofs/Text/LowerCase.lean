import Marginalia.Text.LowerCase

/-!
# Lower case once and for all

A text in lower case stays as it is: no small letter is a capital of another one, and the only
mapping that depends on the neighbours of a letter is that of the capital sigma.

## Main definitions

* `IsSmall`: characters that lower case leaves alone
* `capitalRuns`: the characters that it does not

## Main results

* `isSmall_of_mem_lowerChar`: the small letters of a character are small
* `Text.lower_lower`: lower case twice is lower case once
* `Text.lower_eq_iff_of_ascii`: which texts are an ASCII name in lower case
-/

namespace Marginalia

variable {c d : Char} {s : Text}

/-- Lower case leaves the character alone, wherever it stands. -/
def IsSmall (c : Char) : Prop := c ≠ capitalSigma ∧ lowerChar c = [c]

instance (c : Char) : Decidable (IsSmall c) := inferInstanceAs (Decidable (_ ∧ _))

/-- The runs of all characters that lower case does not leave alone. -/
def capitalRuns : List LowerRun := ⟨0x130, 0x130, 1, 0⟩ :: ⟨0x3a3, 0x3a3, 1, 0⟩ :: lowerRuns

/-- What is no capital is small. -/
theorem isSmall_of_forall_covers (h : ∀ run ∈ capitalRuns, run.covers c.toNat = false) :
    IsSmall c := by
  obtain ⟨hdotted, h⟩ := List.forall_mem_cons.mp h
  obtain ⟨hsigma, hruns⟩ := List.forall_mem_cons.mp h
  have hc : c ≠ capitalSigma := by
    rintro rfl
    exact absurd hsigma (by decide)
  have hne : c.toNat ≠ 0x130 := fun hc => by
    rw [hc] at hdotted
    exact absurd hdotted (by decide)
  have hfind : lowerRuns.find? (·.covers c.toNat) = none :=
    List.find?_eq_none.mpr fun run hrun => by simp [hruns run hrun]
  refine ⟨hc, ?_⟩
  unfold lowerChar
  split
  · -- the capitals of ASCII are the first run
    have hlatin := hruns ⟨0x41, 0x5a, 1, 32⟩ List.mem_cons_self
    have hascii : ∀ n : Fin 128, (⟨0x41, 0x5a, 1, 32⟩ : LowerRun).covers n = false →
        (Char.ofNat n).toLower = Char.ofNat n := by decide
    have := hascii ⟨c.toNat, ‹_›⟩ hlatin
    rw [Char.ofNat_toNat] at this
    rw [this]
  · rw [hfind]

/-- Whether the numbers of two runs tell that no small letter of the first one is a capital of the
second one: they lie apart, or are even on one side and odd on the other. -/
def LowerRun.avoids (a b : LowerRun) : Bool :=
  let low := (a.first + a.offset).toNat
  let high := (a.last + a.offset).toNat
  Nat.blt high b.first || Nat.blt b.last low ||
    (b.step == 2 && (a.step == 2 || a.first == a.last) && (low + b.first) % 2 == 1 &&
      (low : Int) == a.first + a.offset)

theorem LowerRun.covers_eq_false {a b : LowerRun} {n : Nat} (h : a.covers n = true)
    (hb : a.avoids b = true) : b.covers (n + a.offset).toNat = false := by
  simp only [covers, Bool.and_eq_true, decide_eq_true_eq, beq_iff_eq] at h
  simp only [avoids, Bool.or_eq_true, Bool.and_eq_true, Nat.blt_eq, beq_iff_eq] at hb
  obtain ⟨⟨hfirst, hlast⟩, hstep⟩ := h
  rw [Bool.eq_false_iff]
  intro hcovers
  simp only [covers, Bool.and_eq_true, decide_eq_true_eq, beq_iff_eq] at hcovers
  obtain ⟨⟨hfirst', hlast'⟩, hstep'⟩ := hcovers
  obtain (hbelow | habove) | ⟨⟨⟨htwo, hsingle⟩, hodd⟩, hlow⟩ := hb
  · omega
  · omega
  · rw [htwo] at hstep'
    obtain htwo | hsingle := hsingle
    · rw [htwo] at hstep
      omega
    · omega

theorem avoids_capitalRuns {a b : LowerRun} (ha : a ∈ lowerRuns) (hb : b ∈ capitalRuns) :
    a.avoids b = true := by
  have hall : (lowerRuns.all fun a => capitalRuns.all a.avoids) = true := by decide +kernel
  exact List.all_eq_true.mp (List.all_eq_true.mp hall a ha) b hb

theorem mem_and_covers_of_find? {run : LowerRun} {n : Nat}
    (h : lowerRuns.find? (·.covers n) = some run) : run ∈ lowerRuns ∧ run.covers n = true :=
  ⟨List.mem_of_find?_eq_some h, List.find?_some (p := fun run : LowerRun => run.covers n) h⟩

/-- **The small letters of a character are small.** -/
theorem isSmall_of_mem_lowerChar (hc : c ≠ capitalSigma) (h : d ∈ lowerChar c) : IsSmall d := by
  unfold lowerChar at h
  split at h
  · next hascii =>
    have hsmall : ∀ n : Fin 128, IsSmall (Char.ofNat n).toLower := by decide +kernel
    rw [List.mem_singleton.mp h, ← c.ofNat_toNat]
    exact hsmall ⟨c.toNat, hascii⟩
  split at h
  · -- the capital with a dot, the only one with two small letters
    have hboth : ∀ d ∈ [Char.ofNat 0x69, Char.ofNat 0x307], IsSmall d := by decide +kernel
    exact hboth d h
  split at h
  · next run hrun =>
    obtain ⟨hmem, hcovers⟩ := mem_and_covers_of_find? hrun
    rw [List.mem_singleton.mp h]
    -- a run leads outside of all runs of capitals
    generalize hm : ((c.toNat : Int) + run.offset).toNat = m
    by_cases hvalid : m.isValidChar
    · have htoNat : (Char.ofNat m).toNat = m := by
        rw [Char.ofNat, dif_pos hvalid]
        rfl
      refine isSmall_of_forall_covers fun b hb => ?_
      rw [htoNat, ← hm]
      exact run.covers_eq_false hcovers (avoids_capitalRuns hmem hb)
    · have hzero : Char.ofNat m = Char.ofNat 0 := by
        rw [Char.ofNat, dif_neg hvalid]
        rfl
      rw [hzero]
      decide +kernel
  · next hascii hdotted _ hnone =>
    rw [List.mem_singleton.mp h]
    exact ⟨hc, by rw [lowerChar, if_neg hascii, if_neg hdotted, hnone]⟩

theorem isSmall_of_mem_lowerAfter {before : Text} (h : d ∈ lowerAfter before s) : IsSmall d := by
  induction s generalizing before with
  | nil => cases h
  | cons c r ih =>
    rw [lowerAfter] at h
    obtain h | h := List.mem_append.mp h
    · split at h
      · have hsigmas : IsSmall (Char.ofNat 0x3c2) ∧ IsSmall (Char.ofNat 0x3c3) := by decide +kernel
        split at h
        · exact List.mem_singleton.mp h ▸ hsigmas.1
        · exact List.mem_singleton.mp h ▸ hsigmas.2
      · next hc => exact isSmall_of_mem_lowerChar hc h
    · exact ih h

theorem lowerAfter_of_isSmall {before : Text} (h : ∀ c ∈ s, IsSmall c) :
    lowerAfter before s = s := by
  induction s generalizing before with
  | nil => rfl
  | cons c r ih =>
    obtain ⟨hc, hr⟩ := List.forall_mem_cons.mp h
    rw [lowerAfter, if_neg hc.1, hc.2, ih hr, List.singleton_append]

namespace Text

/-- **Lower case twice is lower case once.** -/
@[simp] theorem lower_lower (s : Text) : s.lower.lower = s.lower :=
  lowerAfter_of_isSmall fun _ h => isSmall_of_mem_lowerAfter h

theorem lowerChar_ne_nil (c : Char) : lowerChar c ≠ [] := by
  unfold lowerChar
  split
  · exact List.cons_ne_nil _ _
  split
  · exact List.cons_ne_nil _ _
  split <;> exact List.cons_ne_nil _ _

/-- Lower case leaves something of every text that is not empty. -/
theorem lower_ne_nil (h : s ≠ []) : s.lower ≠ [] := by
  obtain ⟨c, r, rfl⟩ := List.exists_cons_of_ne_nil h
  unfold lower
  rw [lowerAfter]
  intro hnil
  have hhead := (List.append_eq_nil_iff.mp hnil).1
  split at hhead
  · split at hhead <;> cases hhead
  · exact lowerChar_ne_nil c hhead

end Text

/-! ## ASCII names

Of the characters beyond ASCII, the Kelvin sign alone has a small letter in ASCII. -/

/-- Whether the numbers of a run tell that its small letters are characters beyond ASCII, unless
its capitals are in ASCII or its only small letter is the one of the Kelvin sign. -/
def LowerRun.leavesAscii (run : LowerRun) : Bool :=
  let low := run.first + run.offset
  let high := run.last + run.offset
  Nat.blt run.last 0x80 || (run.first == run.last && low == 0x6b) ||
    (decide (0x80 ≤ low) && (decide (high < 0xd800) || decide (0xdfff < low ∧ high < 0x110000)))

theorem leavesAscii_of_mem {run : LowerRun} (h : run ∈ lowerRuns) : run.leavesAscii = true := by
  have hall : (lowerRuns.all fun run => run.leavesAscii) = true := by decide +kernel
  exact List.all_eq_true.mp hall run h

/-- A character with small letters in ASCII is in ASCII itself, unless it is the Kelvin sign. -/
theorem isAscii_of_lowerChar (h : ∀ d ∈ lowerChar c, d.toNat < 0x80 ∧ d ≠ 'k') :
    c.toNat < 0x80 := by
  unfold lowerChar at h
  split at h
  · assumption
  split at h
  · exact absurd (h (Char.ofNat 0x307) (by simp)).1 (by decide)
  split at h
  · next run hrun =>
    obtain ⟨hmem, hcovers⟩ := mem_and_covers_of_find? hrun
    have hleaves := leavesAscii_of_mem hmem
    obtain ⟨hascii, hkelvin⟩ := h _ (List.mem_singleton.mpr rfl)
    simp only [LowerRun.covers, Bool.and_eq_true, decide_eq_true_eq] at hcovers
    simp only [LowerRun.leavesAscii, Bool.or_eq_true, Bool.and_eq_true, Nat.blt_eq, beq_iff_eq,
      decide_eq_true_eq] at hleaves
    -- a run lies in ASCII, is the Kelvin sign, or leads to no character of ASCII
    obtain (hlast | ⟨hsingle, hlow⟩) | ⟨hlow, hvalid⟩ := hleaves
    · omega
    · have hk : ((c.toNat : Int) + run.offset).toNat = 0x6b := by omega
      exact absurd (congrArg Char.ofNat hk) hkelvin
    · have hm : ((c.toNat : Int) + run.offset).toNat.isValidChar := by
        rw [Nat.isValidChar]
        omega
      rw [Char.ofNat, dif_pos hm] at hascii
      change ((c.toNat : Int) + run.offset).toNat < 0x80 at hascii
      omega
  · exact (h c (List.mem_singleton.mpr rfl)).1

theorem isAscii_of_lowerAfter {before : Text}
    (h : ∀ d ∈ lowerAfter before s, d.toNat < 0x80 ∧ d ≠ 'k') : ∀ c ∈ s, c.toNat < 0x80 := by
  induction s generalizing before with
  | nil => nofun
  | cons c r ih =>
    rw [lowerAfter, List.forall_mem_append] at h
    refine List.forall_mem_cons.mpr ⟨?_, ih h.2⟩
    split at h
    · have hsigmas : ¬ (Char.ofNat 0x3c2).toNat < 0x80 ∧ ¬ (Char.ofNat 0x3c3).toNat < 0x80 := by
        decide
      split at h
      · exact absurd (h.1 _ (List.mem_singleton.mpr rfl)).1 hsigmas.1
      · exact absurd (h.1 _ (List.mem_singleton.mpr rfl)).1 hsigmas.2
    · exact isAscii_of_lowerChar h.1

/-- In ASCII, lower case goes letter by letter. -/
theorem lowerAfter_of_isAscii (before : Text) (h : ∀ c ∈ s, c.toNat < 0x80) :
    lowerAfter before s = s.map Char.toLower := by
  induction s generalizing before with
  | nil => rfl
  | cons c r ih =>
    obtain ⟨hc, hr⟩ := List.forall_mem_cons.mp h
    have hsigma : c ≠ capitalSigma := by
      rintro rfl
      exact absurd hc (by decide)
    rw [lowerAfter, if_neg hsigma, lowerChar, if_pos hc, ih _ hr]
    rfl

theorem isAscii_of_toLower (h : c.toLower.toNat < 0x80) : c.toNat < 0x80 := by
  by_cases hupper : c.val ≥ 'A'.val ∧ c.val ≤ 'Z'.val
  · exact Nat.lt_of_le_of_lt (UInt32.le_iff_toNat_le.mp hupper.2) (by decide)
  · have hsmall : c.toLower = c := dif_neg hupper
    rwa [hsmall] at h

/-- **Which texts are an ASCII name in lower case**: those that spell it with capital or small
letters of ASCII, if no `k` is in it. -/
theorem Text.lower_eq_iff_of_ascii {name : Text} (h : ∀ d ∈ name, d.toNat < 0x80 ∧ d ≠ 'k') :
    s.lower = name ↔ s.map Char.toLower = name := by
  have hascii : s.lower = name ∨ s.map Char.toLower = name → ∀ c ∈ s, c.toNat < 0x80 := by
    rintro (rfl | rfl)
    · exact isAscii_of_lowerAfter h
    · exact fun c hc => isAscii_of_toLower (h _ (List.mem_map_of_mem hc)).1
  constructor
  · intro heq
    rw [← lowerAfter_of_isAscii [] (hascii (.inl heq))]
    exact heq
  · intro heq
    rw [lower, lowerAfter_of_isAscii [] (hascii (.inr heq))]
    exact heq

end Marginalia
