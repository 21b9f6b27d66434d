import Marginalia.Text.Utf8
import Marginalia.Proofs.Text.Segments

/-!
# Lines of a program text

A program counts a line for every line end, so that a segment may hold several of them. What stands
in front of the line ends of a segment is its first line.

## Main definitions

* `Text.rawLines`: the lines of a program text
* `Text.front`: the lines of a segment that a line feed ends

## Main results

* `Text.rawLines_append`: the lines of a text from its segments
* `Text.apply_unixLines`: what stops in front of a line end does not depend on line ends
* `Text.rawLines_body`: the lines of a segment whose line ends all stand at its end
-/

namespace Marginalia

namespace Text

/-- The lines of a program text. -/
def rawLines (s : Text) : List Text := s.unixLines.splitAt '\n'

/-- The lines of a segment that a line feed ends. -/
def front (p : Text) : List Text := p.rawLines.dropLast

variable {a l s t : Text} {c : Char}

/-! ## Line ends -/

@[simp] theorem unixLines_nil : unixLines [] = [] := by
  rw [unixLines]

theorem unixLines_cons (hc : c ≠ '\r') (r : Text) : unixLines (c :: r) = c :: unixLines r := by
  rw [unixLines, if_neg hc]
  rintro r' rfl
  exact absurd rfl hc

theorem ne_cr (hc : isLineEnd c = false) : c ≠ '\r' := by
  rintro rfl
  cases hc

/-- A text without carriage returns keeps its line ends. -/
theorem unixLines_of_notMem {s : Text} (h : '\r' ∉ s) : s.unixLines = s := by
  induction s with
  | nil => rfl
  | cons c s ih =>
    obtain ⟨hc, hs⟩ := not_or.mp fun hm => h (List.mem_cons.mpr hm)
    rw [unixLines_cons (Ne.symm hc), ih hs]

/-- A text without line ends stays as it is. -/
theorem unixLines_append_of_oneLine (ha : a.OneLine) (t : Text) :
    unixLines (a ++ t) = a ++ unixLines t := by
  induction a with
  | nil => rfl
  | cons c a ih =>
    obtain ⟨hc, ha⟩ := List.forall_mem_cons.mp ha
    rw [List.cons_append, unixLines_cons (ne_cr hc), ih ha]
    rfl

theorem unixLines_cr {d : Char} (hd : d ≠ '\n') (r : Text) :
    unixLines ('\r' :: d :: r) = '\n' :: unixLines (d :: r) := by
  rw [unixLines, if_pos rfl]
  rintro r' - h
  exact hd (List.cons.inj h).1

/-- A carriage return becomes a line feed, alone or together with the line feed behind it. -/
theorem unixLines_cons_cr (r : Text) : unixLines ('\r' :: r) = '\n' :: unixLines r ∨
    ∃ r', r = '\n' :: r' ∧ unixLines ('\r' :: r) = '\n' :: unixLines r' := by
  cases r with
  | nil => exact Or.inl rfl
  | cons d r =>
    by_cases hd : d = '\n'
    · rw [hd]
      exact Or.inr ⟨r, rfl, rfl⟩
    · exact Or.inl (unixLines_cr hd r)

/-- A line end becomes a line feed. -/
theorem exists_unixLines_cons (hc : isLineEnd c = true) (r : Text) :
    ∃ t, unixLines (c :: r) = '\n' :: t := by
  have hc : c = '\n' ∨ c = '\r' := by simpa [isLineEnd] using hc
  rcases hc with rfl | rfl
  · exact ⟨_, unixLines_cons (by decide) r⟩
  · rcases unixLines_cons_cr r with h | ⟨t, -, h⟩ <;> exact ⟨_, h⟩

theorem unixLines_eq_nil_iff : unixLines s = [] ↔ s = [] := by
  cases s with
  | nil => exact iff_of_true unixLines_nil rfl
  | cons c r =>
    by_cases hc : isLineEnd c = true
    · obtain ⟨t, ht⟩ := exists_unixLines_cons hc r
      simp [ht]
    · simp [unixLines_cons (ne_cr (by simpa using hc))]

/-- **What stops in front of a line end does not depend on line ends.** -/
theorem apply_unixLines {α : Type} {g : Text → α} (hlf : ∀ r, g ('\n' :: r) = g [])
    (hcr : ∀ r, g ('\r' :: r) = g [])
    (hcons : ∀ c r, isLineEnd c = false → g (unixLines r) = g r → g (c :: unixLines r) = g (c :: r))
    (s : Text) : g s.unixLines = g s := by
  induction s with
  | nil => rw [unixLines_nil]
  | cons c r ih =>
    by_cases hc : isLineEnd c = true
    · obtain ⟨t, ht⟩ := exists_unixLines_cons hc r
      have hc : c = '\n' ∨ c = '\r' := by simpa [isLineEnd] using hc
      rcases hc with rfl | rfl
      · rw [ht, hlf, hlf]
      · rw [ht, hlf, hcr]
    · have hc : isLineEnd c = false := by simpa using hc
      rw [unixLines_cons (ne_cr hc)]
      exact hcons c r hc ih

/-- A class without line ends does not tell them apart. -/
theorem takeWhile_unixLines {p : Char → Bool} (hcr : p '\r' = false) (hlf : p '\n' = false)
    (s : Text) : s.unixLines.takeWhile p = s.takeWhile p := by
  apply apply_unixLines
  · simp [hlf]
  · simp [hcr]
  · intro c r _ ih
    rw [List.takeWhile_cons, List.takeWhile_cons, ih]

/-- A text on one line stands at the front whatever ends the lines. -/
theorem prefix_unixLines_iff (ha : a.OneLine) : a <+: s.unixLines ↔ a <+: s := by
  induction a generalizing s with
  | nil => exact iff_of_true List.nil_prefix List.nil_prefix
  | cons d a ih =>
    obtain ⟨hd, ha⟩ := List.forall_mem_cons.mp ha
    have hlf : d ≠ '\n' := by
      rintro rfl
      cases hd
    -- neither of the two line ends is the first character of the text in front
    refine Iff.of_eq (apply_unixLines (g := fun s => (d :: a) <+: s) ?_ ?_ ?_ s)
    · simp [hlf]
    · simp [ne_cr hd]
    · intro c r _ _
      rw [List.cons_prefix_cons, List.cons_prefix_cons, ih ha]

/-- What follows a text on one line. -/
theorem drop_unixLines (h : a <+: s) (ha : a.OneLine) :
    s.unixLines.drop a.length = unixLines (s.drop a.length) := by
  obtain ⟨t, rfl⟩ := h
  rw [unixLines_append_of_oneLine ha, List.drop_left, List.drop_left]

/-- A line feed separates what comes before it from what comes after it. -/
theorem exists_unixLines_lf (l : Text) :
    ∃ u, ∀ t, unixLines (l ++ '\n' :: t) = u ++ '\n' :: unixLines t := by
  induction l using unixLines.induct with
  | case1 => exact ⟨[], fun t => unixLines_cons (by decide) t⟩
  | case2 r ih =>
    obtain ⟨u, hu⟩ := ih
    exact ⟨'\n' :: u, fun t => by simp [unixLines, hu]⟩
  | case3 c r hne ih =>
    obtain ⟨u, hu⟩ := ih
    by_cases hc : c = '\r'
    · subst hc
      cases r with
      | nil => exact ⟨[], fun t => by simp [unixLines]⟩
      | cons d r =>
        have hd : d ≠ '\n' := fun hd => hne r rfl (by rw [hd])
        exact ⟨'\n' :: u, fun t => by
          rw [List.cons_append, List.cons_append, unixLines_cr hd, ← List.cons_append, hu]
          rfl⟩
    · exact ⟨c :: u, fun t => by rw [List.cons_append, unixLines_cons hc, hu]; rfl⟩

theorem mem_unixLines {s : Text} {c : Char} (h : c ∈ unixLines s) :
    c = '\n' ∨ (c ∈ s ∧ c ≠ '\r') := by
  induction s using unixLines.induct with
  | case1 => cases h
  | case2 r ih =>
    rw [unixLines] at h
    rcases List.mem_cons.mp h with rfl | h
    · exact Or.inl rfl
    · rcases ih h with h | ⟨h, hc⟩
      · exact Or.inl h
      · exact Or.inr ⟨by simp [h], hc⟩
  | case3 d r hne ih =>
    rw [unixLines] at h
    · rcases List.mem_cons.mp h with rfl | h
      · by_cases hd : d = '\r'
        · exact Or.inl (if_pos hd)
        · rw [if_neg hd]
          exact Or.inr ⟨List.mem_cons_self, hd⟩
      · rcases ih h with h | ⟨h, hc⟩
        · exact Or.inl h
        · exact Or.inr ⟨List.mem_cons_of_mem _ h, hc⟩
    · exact hne

/-! ## Parts between line feeds -/

theorem splitAt_ne_nil (sep : Char) (s : Text) : splitAt sep s ≠ [] := by
  cases s with
  | nil => simp [splitAt]
  | cons c r =>
    rw [splitAt]
    split
    · simp
    · cases splitAt sep r <;> simp [glue]

theorem glue_append (c : Char) {ps : List Text} (h : ps ≠ []) (qs : List Text) :
    glue c (ps ++ qs) = glue c ps ++ qs := by
  cases ps with
  | nil => exact absurd rfl h
  | cons p ps => rfl

/-- The parts on both sides of a separator. -/
theorem splitAt_append (sep : Char) (s t : Text) :
    splitAt sep (s ++ sep :: t) = splitAt sep s ++ splitAt sep t := by
  induction s with
  | nil => simp [splitAt]
  | cons c s ih =>
    rw [List.cons_append, splitAt, splitAt]
    split
    · rw [ih, List.cons_append]
    · rw [ih, glue_append c (splitAt_ne_nil sep s)]

/-- The first part goes up to the first separator. -/
theorem splitAt_of_notMem {sep : Char} (ha : sep ∉ a) {p : Text} {ps : List Text}
    (h : splitAt sep s = p :: ps) : splitAt sep (a ++ s) = (a ++ p) :: ps := by
  induction a with
  | nil => exact h
  | cons c a ih =>
    obtain ⟨hc, ha'⟩ := not_or.mp fun hm => ha (List.mem_cons.mpr hm)
    rw [List.cons_append, splitAt, if_neg (Ne.symm hc), ih ha']
    rfl

theorem length_splitAt (sep : Char) (s : Text) : (splitAt sep s).length = s.count sep + 1 := by
  induction s with
  | nil => rfl
  | cons c s ih =>
    rw [splitAt]
    split
    · next hc => simp [hc, ih]
    · next hc =>
      rw [List.count_cons_of_ne hc, ← ih]
      cases h : splitAt sep s with
      | nil => exact absurd h (splitAt_ne_nil sep s)
      | cons p ps => rfl

/-! ## Lines of segments -/

/-- **The lines of a text** from those of its first segment. -/
theorem rawLines_append (l t : Text) :
    rawLines ((l ++ ['\n']) ++ t) = front (l ++ ['\n']) ++ rawLines t := by
  obtain ⟨u, hu⟩ := exists_unixLines_lf l
  have hone : rawLines (l ++ ['\n']) = splitAt '\n' u ++ [[]] := by
    rw [rawLines, hu, splitAt_append]
    rfl
  rw [front, hone, List.dropLast_concat, rawLines, List.append_assoc, List.singleton_append, hu,
    splitAt_append, rawLines]

theorem length_front (l : Text) :
    (front (l ++ ['\n'])).length = (unixLines (l ++ ['\n'])).count '\n' := by
  rw [front, List.length_dropLast, rawLines, length_splitAt, Nat.add_sub_cancel]

/-- Line ends are line feeds once they are counted. -/
theorem unixLines_lineEnds (h : ∀ c ∈ t, isLineEnd c = true) :
    unixLines t = List.replicate (unixLines t).length '\n' := by
  refine List.eq_replicate_iff.mpr ⟨rfl, fun c hc => ?_⟩
  rcases mem_unixLines hc with hc | ⟨hc, hcr⟩
  · exact hc
  · simpa [isLineEnd, hcr] using h c hc

theorem splitAt_replicate (n : Nat) :
    splitAt '\n' (List.replicate n '\n') = [] :: List.replicate n [] := by
  induction n with
  | zero => rfl
  | succ n ih => rw [List.replicate_succ, splitAt, if_pos rfl, ih, List.replicate_succ]

/-- **The lines of a segment whose line ends all stand at its end**: its body comes first, and the
others are empty. -/
theorem rawLines_body (ha : a.OneLine) (ht : ∀ c ∈ t, isLineEnd c = true) :
    rawLines (a ++ t) = a :: List.replicate (unixLines t).length [] := by
  have hsplit := splitAt_of_notMem ha.notMem_lf (splitAt_replicate (unixLines t).length)
  rw [List.append_nil] at hsplit
  rw [rawLines, unixLines_append_of_oneLine ha]
  rw [← unixLines_lineEnds ht] at hsplit
  exact hsplit

/-- The only line of a text. -/
theorem rawLines_oneLine (ha : a.OneLine) : rawLines a = [a] := by
  have h := rawLines_body ha (t := []) (by simp)
  rwa [List.append_nil] at h

end Text

end Marginalia
