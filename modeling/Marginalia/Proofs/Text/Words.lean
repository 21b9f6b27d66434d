import Mathlib.Data.List.TakeWhile
import Marginalia.Proofs.Text.Ends

/-!
# Words and trimmed texts

The words of a text are its maximal runs of characters that are no separators, and trimming a text
takes away the longest ends of a class.

## Main definitions

* `Text.IsRun`: maximal runs
* `Text.Separated`: names with separators between them
* `Text.IsTrimmed`: texts without characters of a class at their ends
* `Text.TrimsTo`: what is left of a text between such ends

## Main results

* `Text.words_append_of_bounded`: a run between two texts is a word
* `Text.mem_words_iff`: words are the maximal runs
* `Text.Separated.words_eq`: the words of names with separators between them are the names
* `Text.trim_eq_iff`: trimming leaves what is trimmed between two ends
-/

namespace Marginalia

namespace Text

variable {sep p : Char → Bool} {s t v w : Text}

/-! ## Words -/

/-- A maximal run of characters that are no separators. -/
structure IsRun (sep : Char → Bool) (w s : Text) : Prop where
  /-- It is not empty. -/
  ne_nil : w ≠ []
  /-- It holds no separator. -/
  free : ∀ c ∈ w, sep c = false
  /-- On either side of it the text ends or goes on with a separator. -/
  bounded : ∃ a b, s = a ++ w ++ b ∧ (∀ c ∈ a.getLast?, sep c = true) ∧
    ∀ c ∈ b.head?, sep c = true

/-- A text without separators is its only word. -/
theorem words_of_forall (hv : v ≠ []) (hs : ∀ e ∈ v, sep e = false) : words sep v = [v] := by
  have hword : wordsFrom sep v = (v, []) := by
    clear hv
    induction v with
    | nil => rfl
    | cons e v ih =>
      rw [wordsFrom, ih fun x hx => hs x (List.mem_cons_of_mem _ hx)]
      simp [hs e List.mem_cons_self]
  rw [words, hword]
  simp [hv]

/-- Separators in front of a text form no word. -/
theorem words_append_of_forall (hs : ∀ c ∈ s, sep c = true) (t : Text) :
    words sep (s ++ t) = words sep t := by
  induction s with
  | nil => rfl
  | cons c s ih =>
    obtain ⟨hc, hs⟩ := List.forall_mem_cons.mp hs
    rw [List.cons_append, words_cons_sep hc, ih hs]

/-- **Words never cross a run of separators.** -/
theorem words_append_append {mid : Text} (hne : mid ≠ []) (hmid : ∀ c ∈ mid, sep c = true)
    (s t : Text) : words sep (s ++ mid ++ t) = words sep s ++ words sep t := by
  obtain ⟨c, mid, rfl⟩ := List.exists_cons_of_ne_nil hne
  obtain ⟨hc, hmid⟩ := List.forall_mem_cons.mp hmid
  rw [List.append_assoc, List.cons_append, words_append_sep hc, words_append_of_forall hmid]

/-- Separators at the end of a text form no word. -/
theorem words_append_trail {trail : Text} (h : ∀ c ∈ trail, sep c = true) (s : Text) :
    words sep (s ++ trail) = words sep s := by
  cases trail with
  | nil => rw [List.append_nil]
  | cons c trail => simpa using words_append_append (List.cons_ne_nil c trail) h s []

/-- **A run is a word** if the text ends or goes on with a separator on either side of it. -/
theorem words_append_of_bounded {a b : Text} (hne : w ≠ []) (hfree : ∀ c ∈ w, sep c = false)
    (ha : ∀ c ∈ a.getLast?, sep c = true) (hb : ∀ c ∈ b.head?, sep c = true) :
    words sep (a ++ w ++ b) = words sep a ++ w :: words sep b := by
  have hright : words sep (w ++ b) = w :: words sep b := by
    cases b with
    | nil => simp [words_of_forall hne hfree]
    | cons d b =>
      have hd := hb d rfl
      rw [words_append_sep hd, words_of_forall hne hfree, words_cons_sep hd, List.singleton_append]
  rcases List.eq_nil_or_concat a with rfl | ⟨a, c, rfl⟩
  · exact hright
  · -- the separator in front of the run forms no word of its own
    rw [List.concat_eq_append] at ha ⊢
    have hc := ha c (by simp)
    rw [List.append_assoc, List.append_assoc, List.singleton_append, words_append_sep hc, hright,
      words_append_sep hc, words_nil, List.append_nil]

/-- A text has no words exactly when it holds separators only. -/
theorem words_eq_nil_iff : words sep s = [] ↔ ∀ c ∈ s, sep c = true := by
  constructor
  · induction s with
    | nil => simp
    | cons c s ih =>
      intro h
      cases hc : sep c with
      | true =>
        rw [words_cons_sep hc] at h
        exact List.forall_mem_cons.mpr ⟨hc, ih h⟩
      | false => simp [words, wordsFrom, hc] at h
  · intro h
    simpa using words_append_of_forall h []

/-- A text with a separator in it starts with what comes before the first one. -/
theorem exists_first_sep (h : ∃ c ∈ s, sep c = true) :
    ∃ l c r, s = l ++ c :: r ∧ sep c = true ∧ ∀ d ∈ l, sep d = false := by
  induction s with
  | nil => simp at h
  | cons d s ih =>
    cases hd : sep d with
    | true => exact ⟨[], d, s, rfl, hd, by simp⟩
    | false =>
      obtain ⟨l, c, r, rfl, hc, hl⟩ := ih (by simpa [hd] using h)
      exact ⟨d :: l, c, r, rfl, hc, List.forall_mem_cons.mpr ⟨hd, hl⟩⟩

theorem IsRun.self (hne : s ≠ []) (hs : ∀ c ∈ s, sep c = false) : IsRun sep s s :=
  ⟨hne, hs, [], [], by simp, by simp, by simp⟩

/-- A run stays a run behind a separator. -/
theorem IsRun.append_sep {c : Char} (hc : sep c = true) (l : Text) (h : IsRun sep w t) :
    IsRun sep w (l ++ c :: t) := by
  obtain ⟨a, b, rfl, ha, hb⟩ := h.bounded
  refine ⟨h.ne_nil, h.free, l ++ c :: a, b, by simp, fun d hd => ?_, hb⟩
  cases a with
  | nil =>
    obtain rfl : c = d := by simpa using hd
    exact hc
  | cons e a => exact ha d (by simpa [List.getLast?_append] using hd)

/-- **Words are the maximal runs** of characters that are no separators. -/
theorem mem_words_iff : w ∈ words sep s ↔ IsRun sep w s := by
  constructor
  · -- the text is taken apart at its first separator
    induction hn : s.length using Nat.strongRecOn generalizing s with
    | ind n ih =>
      intro h
      by_cases hsep : ∃ c ∈ s, sep c = true
      · obtain ⟨l, c, r, rfl, hc, hl⟩ := exists_first_sep hsep
        rw [words_append_sep hc] at h
        rcases List.mem_append.mp h with h | h
        · have hne : l ≠ [] := by
            rintro rfl
            simp at h
          rw [words_of_forall hne hl, List.mem_singleton] at h
          subst h
          exact ⟨hne, hl, [], c :: r, by simp, by simp, by simp [hc]⟩
        · exact (ih r.length (by rw [← hn]; simp; omega) rfl h).append_sep hc l
      · have hs : ∀ c ∈ s, sep c = false := by simpa using hsep
        have hne : s ≠ [] := by
          rintro rfl
          simp at h
        rw [words_of_forall hne hs, List.mem_singleton] at h
        subst h
        exact .self hne hs
  · rintro ⟨hne, hfree, a, b, rfl, ha, hb⟩
    rw [words_append_of_bounded hne hfree ha hb]
    exact List.mem_append_right _ List.mem_cons_self

/-- Names with separators between them. -/
inductive Separated (sep : Char → Bool) : List Text → Text → Prop
  /-- One name stands alone. -/
  | single {name : Text} (ne_nil : name ≠ []) (free : ∀ c ∈ name, sep c = false) :
    Separated sep [name] name
  /-- A name is separated from those after it by a run of separators. -/
  | cons {name t : Text} {names : List Text} (mid : Text) (ne_nil : name ≠ [])
    (free : ∀ c ∈ name, sep c = false) (mid_ne_nil : mid ≠ []) (hmid : ∀ c ∈ mid, sep c = true)
    (rest : Separated sep names t) : Separated sep (name :: names) (name ++ mid ++ t)

/-- **The words of names with separators between them** are the names. -/
theorem Separated.words_eq {names : List Text} (h : Separated sep names s) :
    words sep s = names := by
  induction h with
  | single hne hfree => exact words_of_forall hne hfree
  | @cons name t names mid hne hfree hmne hmid _ ih =>
    rw [words_append_append hmne hmid, words_of_forall hne hfree, ih, List.singleton_append]

theorem Separated.ne_nil {names : List Text} (h : Separated sep names s) : names ≠ [] := by
  cases h <;> simp

/-- A character among names with separators between them is part of one of them or separates. -/
theorem Separated.mem_cases {names : List Text} (h : Separated sep names s) {c : Char}
    (hc : c ∈ s) : sep c = true ∨ ∃ name ∈ names, c ∈ name := by
  induction h with
  | single => exact Or.inr ⟨_, List.mem_singleton_self _, hc⟩
  | cons _ _ _ _ hmid _ ih =>
    rcases List.mem_append.mp hc with hc | hc
    · rcases List.mem_append.mp hc with hc | hc
      · exact Or.inr ⟨_, List.mem_cons_self, hc⟩
      · exact Or.inl (hmid c hc)
    · rcases ih hc with hsep | ⟨name, hmem, hc⟩
      · exact Or.inl hsep
      · exact Or.inr ⟨name, List.mem_cons_of_mem _ hmem, hc⟩

/-! ## Trimmed texts -/

/-- A text that neither starts nor ends with a character of the class. -/
structure IsTrimmed (p : Char → Bool) (t : Text) : Prop where
  head : ∀ c ∈ t.head?, p c = false
  last : ∀ c ∈ t.getLast?, p c = false

/-- What is left of a text between ends of the class. -/
structure TrimsTo (p : Char → Bool) (s t : Text) : Prop where
  /-- On either side of it stand characters of the class only. -/
  ends : ∃ a b, s = a ++ t ++ b ∧ (∀ c ∈ a, p c = true) ∧ ∀ c ∈ b, p c = true
  /-- Neither of the ends could be longer. -/
  trimmed : IsTrimmed p t

/-- A text that does not end with a character of the class keeps its end. -/
theorem dropEndWhile_of_getLast? (h : ∀ c ∈ t.getLast?, p c = false) : t.dropEndWhile p = t := by
  induction t with
  | nil => rfl
  | cons c r ih =>
    cases r with
    | nil => simp [dropEndWhile, h c rfl]
    | cons d r =>
      have hr : dropEndWhile p (d :: r) = d :: r := ih (by simpa using h)
      rw [dropEndWhile, hr]

theorem dropWhile_of_head? (h : ∀ c ∈ t.head?, p c = false) : t.dropWhile p = t := by
  cases t with
  | nil => rfl
  | cons c r => simp [h c rfl]

theorem takeWhile_of_head? (h : ∀ c ∈ t.head?, p c = false) : t.takeWhile p = [] := by
  cases t with
  | nil => rfl
  | cons c r => simp [h c rfl]

theorem IsTrimmed.trim_eq (h : IsTrimmed p t) : t.trim p = t := by
  rw [trim, dropWhile_of_head? h.head, dropEndWhile_of_getLast? h.last]

theorem isTrimmed_trim (p : Char → Bool) (s : Text) : IsTrimmed p (s.trim p) :=
  ⟨fun _ hc => head?_trim hc, fun _ hc => getLast?_dropEndWhile hc⟩

/-- Trimming twice is trimming once. -/
@[simp] theorem trim_trim (p : Char → Bool) (s : Text) : (s.trim p).trim p = s.trim p :=
  (isTrimmed_trim p s).trim_eq

/-- **Trimming leaves what is trimmed between two ends of the class.** -/
theorem trim_eq_iff : s.trim p = t ↔ TrimsTo p s t := by
  constructor
  · rintro rfl
    refine ⟨⟨s.takeWhile p, (s.dropWhile p).drop (s.trim p).length, ?_, fun c hc => ?_,
      fun c hc => mem_drop_dropEndWhile hc⟩, isTrimmed_trim p s⟩
    · rw [List.append_assoc, trim, dropEndWhile_append_drop, List.takeWhile_append_dropWhile]
    · exact List.all_eq_true.mp List.all_takeWhile c hc
  · rintro ⟨⟨a, b, rfl, ha, hb⟩, ht⟩
    rw [trim, List.append_assoc, List.dropWhile_append_of_pos ha]
    cases t with
    | nil =>
      rw [List.nil_append, List.dropWhile_eq_nil_iff.mpr fun c hc => hb c hc]
      rfl
    | cons c t =>
      rw [dropWhile_of_head? (by simpa using ht.head), dropEndWhile_append _ hb,
        dropEndWhile_of_getLast? ht.last]

end Text

end Marginalia
