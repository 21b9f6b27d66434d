import Marginalia.Proofs.Rewrite.Piece

/-!
# Lines of a rewritten text

A rewritten text has the segments of the text that it comes from, one for one and each with the same
end, so that every line keeps its number.

## Main definitions

* `Rewrite.Becomes`: what a segment becomes

## Main results

* `Rewrite.becomes_iff`: what a segment becomes is what the tags make of it
* `Rewrite.terminator_of_pieceAfter`: a line keeps what ends it
* `Rewrite.segments_of_rewrite`: the segments of a rewritten text
* `Rewrite.rewrite_line_by_line`: rewriting against a pass over segments
-/

namespace Marginalia

namespace Rewrite

variable {tags : List Tag} {execEnabled : Bool} {p q s t : Text}

/-- A line stays as it is where no tag claims it; otherwise the first tag to claim it gives its
body. -/
theorem pieceAfter_cases (h : pieceAfter tags execEnabled p = .ok q) :
    (q = p ∧ claimant? tags p = none) ∨
      ∃ d tag r, Directive.ofLine? (body p) = some d ∧
        tags.find? (fun tag => d.names tag.name) = some tag ∧
        d.replacement tag execEnabled = .ok r ∧ q = r ++ terminator p := by
  unfold pieceAfter at h
  cases hd : Directive.ofLine? (body p) with
  | none =>
    rw [hd] at h
    exact Or.inl ⟨(Except.ok.inj h).symm, by rw [claimant?, hd]; rfl⟩
  | some d =>
    rw [hd] at h
    dsimp only at h
    cases hf : tags.find? fun tag => d.names tag.name with
    | none =>
      rw [hf] at h
      exact Or.inl ⟨(Except.ok.inj h).symm, (claimant?_eq_none_iff hd).mpr hf⟩
    | some tag =>
      rw [hf] at h
      obtain ⟨r, hr, rfl⟩ := Value.map_eq_ok_iff.mp h
      exact Or.inr ⟨d, tag, r, rfl, hf, hr, rfl⟩

/-- A line that no tag claims stays as it is. -/
theorem pieceAfter_of_claimant?_eq_none (h : claimant? tags p = none) :
    pieceAfter tags execEnabled p = .ok p := by
  unfold pieceAfter
  cases hd : Directive.ofLine? (body p) with
  | none => rfl
  | some d =>
    dsimp only
    rw [(claimant?_eq_none_iff hd).mp h]

/-- What a segment becomes. It stays as it is unless its body is a directive that lists a tag; the
first such tag gives it another body, and it keeps what ends it. -/
inductive Becomes (tags : List Tag) (execEnabled : Bool) (p : Text) : Text → Prop
  /-- The body is no directive. -/
  | code (h : Directive.ofLine? (body p) = none) : Becomes tags execEnabled p p
  /-- The directive lists none of the tags. -/
  | unclaimed {d : Directive} (hd : Directive.ofLine? (body p) = some d)
    (h : ∀ tag ∈ tags, d.names tag.name = false) : Becomes tags execEnabled p p
  /-- A message or a dump becomes a call. -/
  | call {d : Directive} {tag : Tag} {source : Text} (hd : Directive.ofLine? (body p) = some d)
    (hfirst : tags.find? (fun tag => d.names tag.name) = some tag) (hkind : d.kind ≠ .exec)
    (hsource : (d.invocation tag).source = .ok source) :
    Becomes tags execEnabled p (d.indent ++ source ++ terminator p)
  /-- Code that is enabled and is no directive itself takes the place of its directive. -/
  | shown {d : Directive} {tag : Tag} (hd : Directive.ofLine? (body p) = some d)
    (hfirst : tags.find? (fun tag => d.names tag.name) = some tag) (hkind : d.kind = .exec)
    (henabled : execEnabled = true) (hpayload : Directive.ofLine? d.payload = none) :
    Becomes tags execEnabled p (d.indent ++ d.payload ++ terminator p)
  /-- Other code vanishes. -/
  | hidden {d : Directive} {tag : Tag} (hd : Directive.ofLine? (body p) = some d)
    (hfirst : tags.find? (fun tag => d.names tag.name) = some tag) (hkind : d.kind = .exec)
    (h : execEnabled = false ∨ (Directive.ofLine? d.payload).isSome = true) :
    Becomes tags execEnabled p (terminator p)

/-- **What a segment becomes** is what the tags make of it. -/
theorem becomes_iff : Becomes tags execEnabled p q ↔ pieceAfter tags execEnabled p = .ok q := by
  have hclaimed : ∀ {d : Directive} {tag : Tag}, Directive.ofLine? (body p) = some d →
      tags.find? (fun tag => d.names tag.name) = some tag →
      pieceAfter tags execEnabled p = (d.replacement tag execEnabled).map (· ++ terminator p) := by
    intro d tag hd hf
    rw [pieceAfter, hd]
    dsimp only
    rw [hf]
  constructor
  · intro h
    cases h with
    | code hd => rw [pieceAfter, hd]
    | unclaimed hd hnone =>
      refine pieceAfter_of_claimant?_eq_none ((claimant?_eq_none_iff hd).mpr ?_)
      exact List.find?_eq_none.mpr fun tag ht => by simp [hnone tag ht]
    | call hd hf hk hsource =>
      rw [hclaimed hd hf, Directive.replacement_of_ne_exec hk, hsource]
      rfl
    | shown hd hf hk he hp =>
      rw [hclaimed hd hf, Directive.replacement_of_exec hk, he, hp]
      rfl
    | @hidden d tag hd hf hk h =>
      have hvanishes : (execEnabled && (Directive.ofLine? d.payload).isNone) = false := by
        rcases h with rfl | h
        · rfl
        · simp [Option.isNone_eq_false_iff.mpr h]
      rw [hclaimed hd hf, Directive.replacement_of_exec hk, hvanishes]
      rfl
  · intro h
    rcases pieceAfter_cases h with ⟨rfl, hnone⟩ | ⟨d, tag, r, hd, hf, hr, rfl⟩
    · -- no tag claims the segment: it is no directive, or one that lists none of them
      cases hd : Directive.ofLine? (body q) with
      | none => exact .code hd
      | some d =>
        have hfind := (claimant?_eq_none_iff hd).mp hnone
        exact .unclaimed hd fun tag ht => by simpa using List.find?_eq_none.mp hfind tag ht
    · -- code has two ways to go, a call has one
      by_cases hk : d.kind = .exec
      · rw [Directive.replacement_of_exec hk] at hr
        obtain rfl := Except.ok.inj hr
        split
        · next hshown =>
          rw [Bool.and_eq_true, Option.isNone_iff_eq_none] at hshown
          exact .shown hd hf hk hshown.1 hshown.2
        · next hhidden =>
          refine .hidden hd hf hk ?_
          rw [Bool.and_eq_true, not_and_or, Bool.not_eq_true] at hhidden
          exact hhidden.imp_right fun h => by simpa [Option.isSome_iff_ne_none] using h
      · rw [Directive.replacement_of_ne_exec hk] at hr
        obtain ⟨source, hsource, rfl⟩ := Value.map_eq_ok_iff.mp hr
        exact .call hd hf hk hsource

/-- **A line keeps what ends it.** -/
theorem terminator_of_pieceAfter (ht : ∀ tag ∈ tags, tag.IsNamed)
    (h : pieceAfter tags execEnabled p = .ok q) : terminator q = terminator p := by
  rcases pieceAfter_cases h with ⟨rfl, -⟩ | ⟨d, tag, r, hd, hf, hr, rfl⟩
  · rfl
  · have hone := Directive.oneLine_of_replacement hd (ht tag (List.mem_of_find?_eq_some hf)) hr
    exact terminator_append hone p

/-- What becomes of a text without line feeds has none. -/
theorem notMem_of_pieceAfter (ht : ∀ tag ∈ tags, tag.IsNamed)
    (h : pieceAfter tags execEnabled p = .ok q) (hp : '\n' ∉ p) : '\n' ∉ q := by
  rcases pieceAfter_cases h with ⟨rfl, -⟩ | ⟨d, tag, r, hd, hf, hr, rfl⟩
  · exact hp
  · have hone := Directive.oneLine_of_replacement hd (ht tag (List.mem_of_find?_eq_some hf)) hr
    intro hm
    rcases List.mem_append.mp hm with hm | hm
    · exact hone.notMem_lf hm
    · exact hp (List.mem_of_mem_drop hm)

/-- What becomes of a line with a line feed at its end has one at its end. -/
theorem exists_of_pieceAfter (ht : ∀ tag ∈ tags, tag.IsNamed)
    (h : pieceAfter tags execEnabled (p ++ ['\n']) = .ok q) (hp : '\n' ∉ p) :
    ∃ l, '\n' ∉ l ∧ q = l ++ ['\n'] := by
  rcases pieceAfter_cases h with ⟨rfl, -⟩ | ⟨d, tag, r, hd, hf, hr, rfl⟩
  · exact ⟨p, hp, rfl⟩
  · have hone := Directive.oneLine_of_replacement hd (ht tag (List.mem_of_find?_eq_some hf)) hr
    refine ⟨r ++ terminator p, fun hm => ?_, by rw [terminator_snoc, List.append_assoc]⟩
    rcases List.mem_append.mp hm with hm | hm
    · exact hone.notMem_lf hm
    · exact hp (List.mem_of_mem_drop hm)

/-- What becomes of segments are segments. -/
theorem isSegments_of_forall₂ (ht : ∀ tag ∈ tags, tag.IsNamed) {ps qs : List Text}
    (hp : IsSegments ps)
    (h : List.Forall₂ (fun p q => pieceAfter tags execEnabled p = .ok q) ps qs) :
    IsSegments qs := by
  induction hp generalizing qs with
  | last hl =>
    cases h with
    | cons hpq hrest =>
      cases hrest
      exact .last (notMem_of_pieceAfter ht hpq hl)
  | cons hl _ ih =>
    cases h with
    | cons hpq hrest =>
      obtain ⟨l, hl', rfl⟩ := exists_of_pieceAfter ht hpq hl
      exact .cons hl' (ih hrest)

/-- **The segments of a rewritten text** are what becomes of the segments, one for one. -/
theorem segments_of_rewrite (ht : ∀ tag ∈ tags, tag.IsNamed)
    (h : (rewrite s tags execEnabled).2 = .ok t) :
    List.Forall₂ (fun p q => pieceAfter tags execEnabled p = .ok q) (segments s) (segments t) := by
  rw [snd_rewrite ht] at h
  obtain ⟨qs, hqs, rfl⟩ := Value.map_eq_ok_iff.mp h
  have hall := mapM_eq_ok_iff.mp hqs
  rwa [segments_flatten (isSegments_of_forall₂ ht (isSegments_segments s) hall)]

/-- The notices of rewriting: every tag gives the number of lines that it is the first to claim. -/
theorem fst_rewrite (h : (rewrite s tags execEnabled).2 = .ok t) :
    (rewrite s tags execEnabled).1 = tags.zipIdx.flatMap fun (tag, j) =>
      claimNotices tag ((segments s).countP fun p => claimant? tags p == some j) := by
  have hrewrite : (claimAll execEnabled tags ((pieces s).map Line.ofPiece)).2.map textOf =
      .ok t := h
  obtain ⟨lines, hlines, -⟩ := Value.map_eq_ok_iff.mp hrewrite
  have hcount : ∀ j, ((pieces s).map Line.ofPiece).countP (fun l => l.claimant? tags == some j) =
      (segments s).countP fun p => claimant? tags p == some j := by
    intro j
    rw [List.countP_map]
    simp only [Function.comp_def, Line.claimant?_ofPiece]
    -- a last segment that is empty is claimed by no tag
    rcases segments_eq_pieces_or s with hs | hs
    · rw [hs]
    · rw [hs, List.countP_append]
      rfl
  have hfst := fst_claimAll hlines
  simp only [hcount] at hfst
  exact hfst

/-- Rewriting has no fault where no trace depth has too many digits. -/
theorem exists_rewrite (ht : ∀ tag ∈ tags, tag.IsNamed)
    (hd : ∀ tag ∈ tags, Digits.tooLong tag.depth = false) (s : Text) :
    ∃ t, (rewrite s tags execEnabled).2 = .ok t := by
  have hpiece : ∀ p, ∃ q, pieceAfter tags execEnabled p = .ok q := by
    intro p
    unfold pieceAfter
    split
    · exact ⟨p, rfl⟩
    split
    · exact ⟨p, rfl⟩
    · next d _ _ tag hf =>
      have hmem := List.mem_of_find?_eq_some hf
      obtain ⟨r, hr⟩ := d.exists_replacement execEnabled (ht tag hmem) (hd tag hmem)
      rw [hr]
      exact ⟨_, rfl⟩
  obtain ⟨qs, hqs⟩ := exists_mapM_eq_ok (l := segments s) fun p _ => hpiece p
  exact ⟨qs.flatten, by rw [snd_rewrite ht, hqs]; rfl⟩

/-- **Rewriting is a pass over segments.** The passes of all tags make of every segment what the
first tag to claim it makes of it, whatever stands in the other segments. No segment is added or
lost, each keeps what ends it, and every tag notes how many segments it is the first to claim. -/
theorem rewrite_line_by_line (ht : ∀ tag ∈ tags, tag.IsNamed) (execEnabled : Bool) (s : Text) :
    (rewrite s tags execEnabled).2 =
        ((segments s).mapM (pieceAfter tags execEnabled)).map List.flatten ∧
      ((∀ tag ∈ tags, Digits.tooLong tag.depth = false) →
        ∃ t, (rewrite s tags execEnabled).2 = .ok t) ∧
      ∀ t, (rewrite s tags execEnabled).2 = .ok t →
        List.Forall₂
            (fun p q => pieceAfter tags execEnabled p = .ok q ∧ Becomes tags execEnabled p q ∧
              terminator q = terminator p)
            (segments s) (segments t) ∧
          t.count '\n' = s.count '\n' ∧
          (rewrite s tags execEnabled).1 = tags.zipIdx.flatMap fun (tag, j) =>
            claimNotices tag ((segments s).countP fun p => claimant? tags p == some j) := by
  refine ⟨snd_rewrite ht s, fun hd => exists_rewrite ht hd s, fun t h => ?_⟩
  have hsegments := segments_of_rewrite ht h
  refine ⟨?_, ?_, fst_rewrite h⟩
  · exact hsegments.imp fun p q hpq =>
      ⟨hpq, becomes_iff.mpr hpq, terminator_of_pieceAfter ht hpq⟩
  · have hlen := hsegments.length_eq
    rw [length_segments, length_segments] at hlen
    exact (Nat.succ.inj hlen).symm

/-- A directive that lists two tags belongs to the first one, and code that vanishes from the end of
a text leaves its line there. -/
theorem rewrite_line_by_line_shared :
    let t : Text := "__import__('debugcomments').debug_msg(None, 'hi')\r\nx = 1\n".toList
    rewrite "##[b a] hi\r\nx = 1\n  ##[a]~ y = 2".toList
        [⟨['a'], 0, .none, .none⟩, ⟨['b'], 1, .text ['f'], .none⟩, ⟨['a'], 0, .none, .none⟩] false =
          ([.claimed ['a'] 2], .ok t) ∧ t.count '\n' = 2 := by
  intro t
  have hnamed : ∀ tag ∈ [(⟨['a'], 0, .none, .none⟩ : Tag), ⟨['b'], 1, .text ['f'], .none⟩,
      ⟨['a'], 0, .none, .none⟩], tag.IsNamed := by
    simp only [List.forall_mem_cons]
    exact ⟨⟨.none, .none⟩, ⟨.text _, .none⟩, ⟨.none, .none⟩, by simp⟩
  obtain ⟨hone, -, hlines⟩ := rewrite_line_by_line hnamed false
    "##[b a] hi\r\nx = 1\n  ##[a]~ y = 2".toList
  have ht := hone.trans (by decide +kernel : _ = .ok t)
  obtain ⟨-, hcount, hnotices⟩ := hlines t ht
  have hclaimed := hnotices.trans (by decide +kernel : _ = [Notice.claimed ['a'] 2])
  exact ⟨Prod.ext hclaimed ht, hcount.trans (by decide)⟩

end Rewrite

end Marginalia
