import Marginalia.Rewrite

/-!
# The ends of a text

What stays of a text when the characters of a class are taken off its end, and how a line comes
apart into its body and what ends it.

## Main definitions

* `Text.OneLine`: texts that stand on one line

## Main results

* `Text.dropEndWhile_append`: what stays of a text in front of characters of the class
* `Rewrite.body_append`: a text that stands on one line is the body of the line it makes
* `Rewrite.terminator_append`: such a line ends as it was told to
-/

namespace Marginalia

namespace Text

variable {p : Char → Bool}

/-- Characters of the class at the end all go. -/
theorem dropEndWhile_eq_nil {s : Text} (h : ∀ c ∈ s, p c = true) : s.dropEndWhile p = [] := by
  induction s with
  | nil => rfl
  | cons c r ih =>
    have hr : dropEndWhile p r = [] := ih fun d hd => h d (List.mem_cons_of_mem _ hd)
    simp [dropEndWhile, hr, h c]

/-- **Nothing in front of characters of the class is lost with them.** -/
theorem dropEndWhile_append (s : Text) {t : Text} (h : ∀ c ∈ t, p c = true) :
    (s ++ t).dropEndWhile p = s.dropEndWhile p := by
  induction s with
  | nil => exact dropEndWhile_eq_nil h
  | cons c r ih => simp only [List.cons_append, dropEndWhile, ih]

/-- A text without characters of the class stays as it is. -/
theorem dropEndWhile_eq_self {s : Text} (h : ∀ c ∈ s, p c = false) : s.dropEndWhile p = s := by
  induction s with
  | nil => rfl
  | cons c r ih =>
    have hr : dropEndWhile p r = r := ih fun d hd => h d (List.mem_cons_of_mem _ hd)
    cases r with
    | nil => simp [dropEndWhile, h c]
    | cons d r => simp only [dropEndWhile] at hr ⊢; simp [hr]

/-- What is taken off an end is of the class. -/
theorem mem_drop_dropEndWhile {s : Text} {c : Char} (h : c ∈ s.drop (s.dropEndWhile p).length) :
    p c = true := by
  induction s with
  | nil => simp at h
  | cons d r ih =>
    by_cases hr : dropEndWhile p r = []
    · rw [hr] at ih
      by_cases hd : p d = true
      · simp only [dropEndWhile, hr, hd, if_true, List.length_nil, List.drop_zero] at h
        rcases List.mem_cons.mp h with rfl | h
        · exact hd
        · exact ih (by simpa using h)
      · simp only [dropEndWhile, hr, hd] at h
        exact ih (by simpa using h)
    · obtain ⟨e, kept, he⟩ := List.exists_cons_of_ne_nil hr
      simp only [dropEndWhile, he, List.length_cons, List.drop_succ_cons] at h
      exact ih (by simpa [he] using h)

/-- What stays is a part of the text. -/
theorem mem_of_mem_dropEndWhile {s : Text} {c : Char} (h : c ∈ s.dropEndWhile p) : c ∈ s := by
  rw [← dropEndWhile_append_drop p s]
  exact List.mem_append_left _ h

/-- What stays between two ends is a part of the text. -/
theorem mem_of_mem_trim {s : Text} {c : Char} (h : c ∈ s.trim p) : c ∈ s :=
  (List.dropWhile_sublist p).mem (mem_of_mem_dropEndWhile h)

/-- What stays in front of an end starts as the text does. -/
theorem head?_dropEndWhile {s : Text} {c : Char} (h : (s.dropEndWhile p).head? = some c) :
    s.head? = some c := by
  have hs := dropEndWhile_append_drop p s
  cases hk : s.dropEndWhile p with
  | nil => simp [hk] at h
  | cons d kept =>
    rw [hk] at hs h
    rw [← hs]
    simpa using h

/-- What stays in front of an end does not end with a character of the class. -/
theorem getLast?_dropEndWhile {s : Text} {c : Char} (h : (s.dropEndWhile p).getLast? = some c) :
    p c = false := by
  induction s with
  | nil => cases h
  | cons d r ih =>
    rw [dropEndWhile] at h
    split at h
    · split at h
      · cases h
      · next hd =>
        cases h
        simpa using hd
    · next hkept =>
      refine ih ?_
      cases hk : dropEndWhile p r with
      | nil => exact absurd hk hkept
      | cons e kept => rwa [hk, List.getLast?_cons_cons] at h

/-- A text without its ends does not start with a character of the class. -/
theorem head?_trim {s : Text} {c : Char} (h : (s.trim p).head? = some c) : p c = false := by
  have hd : (s.dropWhile p).head? = some c := head?_dropEndWhile h
  have hn := List.head?_dropWhile_not p s
  simpa [hd] using hn

/-- What stands in a list of parts stands in one of them or between two. -/
theorem mem_joined {mid : Text} {c : Char} {parts : List Text}
    (h : c ∈ joined mid parts) : c ∈ mid ∨ ∃ part ∈ parts, c ∈ part := by
  induction parts with
  | nil => cases h
  | cons part rest ih =>
    cases rest with
    | nil => exact Or.inr ⟨part, List.mem_singleton_self part, h⟩
    | cons next rest =>
      rw [joined_cons_cons, List.mem_append, List.mem_append] at h
      rcases h with (h | h) | h
      · exact Or.inr ⟨part, List.mem_cons_self, h⟩
      · exact Or.inl h
      · rcases ih h with h | ⟨p, hp, h⟩
        · exact Or.inl h
        · exact Or.inr ⟨p, List.mem_cons_of_mem part hp, h⟩

/-- A text that stands on one line holds no character that ends lines. -/
def OneLine (s : Text) : Prop := ∀ c ∈ s, isLineEnd c = false

namespace OneLine

theorem nil : OneLine [] := fun _ h => by cases h

/-- Characters of a class without line ends. -/
theorem of_forall {p : Char → Bool} (hp : p '\n' = false ∧ p '\r' = false) {s : Text}
    (h : ∀ c ∈ s, p c = true) : OneLine s := by
  intro c hc
  have hne : ∀ d, p d = false → c ≠ d := by
    rintro d hd rfl
    exact absurd (h c hc) (by simp [hd])
  simp [isLineEnd, hne _ hp.1, hne _ hp.2]

theorem append {s t : Text} (hs : OneLine s) (ht : OneLine t) : OneLine (s ++ t) := by
  intro c hc
  rcases List.mem_append.mp hc with h | h
  · exact hs c h
  · exact ht c h

theorem notMem_lf {s : Text} (h : OneLine s) : '\n' ∉ s := fun hc => by
  simpa [isLineEnd] using h _ hc

end OneLine

end Text

namespace Rewrite

/-- What ends a line consists of characters that end lines. -/
theorem isLineEnd_of_mem_terminator {piece : Text} {c : Char} (h : c ∈ terminator piece) :
    isLineEnd c = true :=
  Text.mem_drop_dropEndWhile h

theorem body_eq_self {s : Text} (h : s.OneLine) : body s = s := Text.dropEndWhile_eq_self h

/-- **A text that stands on one line is the body of the line it makes.** -/
theorem body_append {r : Text} (hr : r.OneLine) (piece : Text) :
    body (r ++ terminator piece) = r := by
  rw [body, Text.dropEndWhile_append r fun c => isLineEnd_of_mem_terminator]
  exact body_eq_self hr

/-- **A line that is put in the place of another one ends like it.** -/
theorem terminator_append {r : Text} (hr : r.OneLine) (piece : Text) :
    terminator (r ++ terminator piece) = terminator piece := by
  rw [terminator, body_append hr, List.drop_left]

/-- One more line feed at the end of a line is one more character that ends it. -/
theorem terminator_snoc (l : Text) : terminator (l ++ ['\n']) = terminator l ++ ['\n'] := by
  have hb : body (l ++ ['\n']) = body l := Text.dropEndWhile_append l (by simp [isLineEnd])
  have hle : (body l).length ≤ l.length := by
    have h := congrArg List.length (body_append_terminator l)
    rw [List.length_append] at h
    omega
  rw [terminator, terminator, hb, List.drop_append_of_le_length hle]

end Rewrite

end Marginalia
