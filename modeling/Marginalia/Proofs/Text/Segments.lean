import Marginalia.Proofs.Text.Ends
import Marginalia.Text.Cut

/-!
# Segments of a text

A text is cut after every line feed, and what follows the last line feed is a segment too, even
where nothing does. A text has one segment more than line feeds, so that texts with the same number
of segments have the same number of lines.

## Main definitions

* `Rewrite.segments`: the segments of a text
* `Rewrite.IsSegments`: the lists of texts that are the segments of a text

## Main results

* `Rewrite.segments_flatten`: a list of segments is the list of segments of its text
* `Rewrite.length_segments`: line feeds are counted by segments
* `Rewrite.segments_eq_pieces_or`: segments are lines with what ends them
-/

namespace Marginalia

namespace Rewrite

/-- The segments of a text: its lines, each with the line feed that ends it, and what follows the
last line feed. -/
def segments : Text → List Text
  | [] => [[]]
  | c :: r => if c = '\n' then [c] :: segments r else Text.glue c (segments r)

/-- Only the last segment ends without a line feed, and no segment holds another one. -/
inductive IsSegments : List Text → Prop
  | last {l : Text} (h : '\n' ∉ l) : IsSegments [l]
  | cons {l : Text} {rest : List Text} (h : '\n' ∉ l) (t : IsSegments rest) :
    IsSegments ((l ++ ['\n']) :: rest)

theorem IsSegments.glue {c : Char} (hc : c ≠ '\n') {ss : List Text} (h : IsSegments ss) :
    IsSegments (Text.glue c ss) := by
  have hcons : ∀ {l : Text}, '\n' ∉ l → '\n' ∉ c :: l := fun hl => by
    simpa using ⟨Ne.symm hc, hl⟩
  cases h with
  | last hl => exact .last (hcons hl)
  | cons hl t => exact .cons (hcons hl) t

theorem isSegments_segments (s : Text) : IsSegments (segments s) := by
  induction s with
  | nil => exact .last (by simp)
  | cons c r ih =>
    rw [segments]
    split
    · next hc =>
      rw [hc]
      exact .cons (l := []) (by simp) ih
    · next hc => exact ih.glue hc

@[simp] theorem flatten_segments (s : Text) : (segments s).flatten = s := by
  induction s with
  | nil => rfl
  | cons c r ih =>
    rw [segments]
    split
    · simp [ih]
    · rw [Text.glue_flatten, ih]

theorem segments_of_notMem {l : Text} (h : '\n' ∉ l) : segments l = [l] := by
  induction l with
  | nil => rfl
  | cons c r ih =>
    obtain ⟨hc, hr⟩ := not_or.mp fun hm => h (List.mem_cons.mpr hm)
    rw [segments, if_neg (Ne.symm hc), ih hr]
    rfl

theorem segments_append {l : Text} (h : '\n' ∉ l) (s : Text) :
    segments (l ++ '\n' :: s) = (l ++ ['\n']) :: segments s := by
  induction l with
  | nil => rfl
  | cons c r ih =>
    obtain ⟨hc, hr⟩ := not_or.mp fun hm => h (List.mem_cons.mpr hm)
    rw [List.cons_append, segments, if_neg (Ne.symm hc), ih hr]
    rfl

/-- **A list of segments is the list of segments of its text.** -/
theorem segments_flatten {ss : List Text} (h : IsSegments ss) : segments ss.flatten = ss := by
  induction h with
  | last hl => simpa using segments_of_notMem hl
  | cons hl t ih => rw [List.flatten_cons, List.append_assoc, List.singleton_append,
      segments_append hl, ih]

/-- Segments count line feeds. -/
theorem IsSegments.length_eq {ss : List Text} (h : IsSegments ss) :
    ss.length = ss.flatten.count '\n' + 1 := by
  induction h with
  | last hl => simp [List.count_eq_zero.mpr hl]
  | cons hl t ih => simp [ih, List.count_eq_zero.mpr hl, Nat.add_comm]

/-- **A text has one segment more than line feeds.** -/
theorem length_segments (s : Text) : (segments s).length = s.count '\n' + 1 := by
  have h := (isSegments_segments s).length_eq
  rwa [flatten_segments] at h

theorem pieces_cons {c : Char} (hc : c ≠ '\n') (r : Text) :
    pieces (c :: r) = Text.glue c (pieces r) := by
  rw [pieces, if_neg hc]
  cases pieces r <;> rfl

/-- **Segments are lines**, except for a last one that is empty. -/
theorem segments_eq_pieces_or (s : Text) :
    segments s = pieces s ∨ segments s = pieces s ++ [[]] := by
  induction s with
  | nil => exact Or.inr rfl
  | cons c r ih =>
    by_cases hc : c = '\n'
    · rw [segments, pieces, if_pos hc, if_pos hc]
      rcases ih with h | h <;> simp [h]
    · rw [segments, if_neg hc, pieces_cons hc]
      rcases ih with h | h
      · exact Or.inl (by rw [h])
      · rw [h]
        cases pieces r with
        | nil => exact Or.inl rfl
        | cons p ps => exact Or.inr rfl

/-- The lines of a text are its segments, but for an empty one at the end. -/
theorem pieces_eq_filter (s : Text) : pieces s = (segments s).filter (· ≠ []) := by
  have hne : ∀ p ∈ pieces s, p ≠ [] := by
    induction s with
    | nil => simp [pieces]
    | cons c r ih =>
      rw [pieces]
      split
      · exact List.forall_mem_cons.mpr ⟨by simp, ih⟩
      · split
        · simp
        · next line rest hrest =>
          rw [hrest] at ih
          exact List.forall_mem_cons.mpr ⟨by simp, (List.forall_mem_cons.mp ih).2⟩
  have hfilter : (pieces s).filter (· ≠ []) = pieces s :=
    List.filter_eq_self.mpr fun p hp => decide_eq_true (hne p hp)
  rcases segments_eq_pieces_or s with h | h
  · rw [h, hfilter]
  · rw [h, List.filter_append, hfilter]
    simp

end Rewrite

end Marginalia
