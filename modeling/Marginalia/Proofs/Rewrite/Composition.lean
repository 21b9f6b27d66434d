import Marginalia.Proofs.Rewrite.LineByLine

/-!
# Rewriting twice

What stands in the place of a directive is no directive, so that a second pass over a rewritten text
finds the directives that the first one left alone, and these only.

## Main results

* `Rewrite.pieceAfter_append`: two passes over a line are one
* `Rewrite.rewrite_append`: two passes over a text are one, and the second one changes nothing where
  it has no new name
-/

namespace Marginalia

namespace Rewrite

variable {tags more : List Tag} {execEnabled : Bool} {s t : Text}

/-- A line that has been claimed is claimed by no other tag. -/
theorem claimant?_append_terminator {d : Directive} {tag : Tag} {p r : Text}
    (hd : Directive.ofLine? (body p) = some d) (ht : tag.IsNamed)
    (hr : d.replacement tag execEnabled = .ok r) (more : List Tag) :
    claimant? more (r ++ terminator p) = none := by
  rw [claimant?, body_append (Directive.oneLine_of_replacement hd ht hr),
    Directive.ofLine?_of_replacement hd ht hr]
  rfl

/-- **Two passes over a line are one** with the tags of both. -/
theorem pieceAfter_append (ht : ∀ tag ∈ tags, tag.IsNamed) (more : List Tag) (p : Text) :
    pieceAfter (tags ++ more) execEnabled p =
      pieceAfter tags execEnabled p >>= pieceAfter more execEnabled := by
  cases hd : Directive.ofLine? (body p) with
  | none =>
    simp only [pieceAfter, hd]
    exact (pieceAfter_of_claimant?_eq_none (by rw [claimant?, hd]; rfl)).symm
  | some d =>
    cases hf : tags.find? fun tag => d.names tag.name with
    | none =>
      simp only [pieceAfter, hd, List.find?_append, hf, Option.none_or]
      change _ = pieceAfter more execEnabled p
      simp only [pieceAfter, hd]
    | some tag =>
      simp only [pieceAfter, hd, List.find?_append, hf, Option.some_or]
      cases hr : d.replacement tag execEnabled with
      | error e => rfl
      | ok r =>
        have hnone := claimant?_append_terminator hd (ht tag (List.mem_of_find?_eq_some hf)) hr more
        exact (pieceAfter_of_claimant?_eq_none hnone).symm

/-- What becomes of a line under some tags is claimed by no tag with the name of one of them. -/
theorem claimant?_of_pieceAfter (ht : ∀ tag ∈ tags, tag.IsNamed)
    (hmore : ∀ tag ∈ more, ∃ tag' ∈ tags, tag'.name = tag.name) {p q : Text}
    (h : pieceAfter tags execEnabled p = .ok q) : claimant? more q = none := by
  rcases pieceAfter_cases h with ⟨rfl, hnone⟩ | ⟨d, tag, r, hd, hf, hr, rfl⟩
  · -- a name that claims nothing claims nothing the second time
    cases hd : Directive.ofLine? (body q) with
    | none => rw [claimant?, hd, Option.bind_none]
    | some d =>
      rw [claimant?_eq_none_iff hd, List.find?_eq_none] at hnone ⊢
      intro tag hmem
      obtain ⟨tag', hmem', hname⟩ := hmore tag hmem
      rw [← hname]
      exact hnone tag' hmem'
  · exact claimant?_append_terminator hd (ht tag (List.mem_of_find?_eq_some hf)) hr more

/-- A text without a line that a tag claims stays as it is. -/
theorem rewrite_eq_self (ht : ∀ tag ∈ tags, tag.IsNamed)
    (h : ∀ p ∈ segments s, claimant? tags p = none) :
    rewrite s tags execEnabled = ([], .ok s) := by
  have hpass : (segments s).mapM (pieceAfter tags execEnabled) = .ok (segments s) :=
    mapM_eq_ok_iff.mpr (List.forall₂_same.mpr fun p hp => pieceAfter_of_claimant?_eq_none (h p hp))
  have hsnd : (rewrite s tags execEnabled).2 = .ok s := by
    rw [snd_rewrite ht, hpass]
    exact congrArg Except.ok (flatten_segments s)
  have hcount : ∀ j, (segments s).countP (fun p => claimant? tags p == some j) = 0 := by
    intro j
    rw [List.countP_eq_zero]
    intro p hp
    simp [h p hp]
  have hfst := fst_rewrite hsnd
  simp only [hcount] at hfst
  refine Prod.ext ?_ hsnd
  rw [hfst]
  exact List.flatMap_eq_nil_iff.mpr fun _ _ => rfl

/-- **Two passes over a text are one** with the tags of both. Where every name of the second pass is
a name of the first one, the second pass changes nothing and notes nothing. -/
theorem rewrite_append (ht : ∀ tag ∈ tags, tag.IsNamed) (hm : ∀ tag ∈ more, tag.IsNamed)
    (execEnabled : Bool) (s : Text) :
    (rewrite s (tags ++ more) execEnabled).2 =
        ((rewrite s tags execEnabled).2 >>= fun t => (rewrite t more execEnabled).2) ∧
      ((∀ tag ∈ more, ∃ tag' ∈ tags, tag'.name = tag.name) →
        ∀ t, (rewrite s tags execEnabled).2 = .ok t →
          rewrite t more execEnabled = ([], .ok t)) := by
  constructor
  · have hall : ∀ tag ∈ tags ++ more, tag.IsNamed := fun tag h =>
      (List.mem_append.mp h).elim (ht tag) (hm tag)
    rw [snd_rewrite hall, snd_rewrite ht, funext (pieceAfter_append ht more),
      mapM_bind_of_failsWith (failsWith_pieceAfter ht) (failsWith_pieceAfter hm)]
    cases h : (segments s).mapM (pieceAfter tags execEnabled) with
    | error e => rfl
    | ok qs =>
      -- the second pass finds the segments that the first one leaves
      have hseg : segments qs.flatten = qs :=
        segments_flatten (isSegments_of_forall₂ ht (isSegments_segments s) (mapM_eq_ok_iff.mp h))
      change (qs.mapM (pieceAfter more execEnabled)).map List.flatten =
        (rewrite qs.flatten more execEnabled).2
      rw [snd_rewrite hm, hseg]
  · intro hnames t h
    exact rewrite_eq_self hm (forall_right_of_forall₂ (p := fun q => claimant? more q = none)
      (fun _ _ hpq => claimant?_of_pieceAfter ht hnames hpq) (segments_of_rewrite ht h))

/-- A directive in the place of code waits for a second pass as little as for the first one. -/
theorem rewrite_append_nested :
    (∀ tag ∈ [(⟨['a'], 0, .none, .none⟩ : Tag)], tag.IsNamed) ∧
      ∀ t, (rewrite "##[a]~ ##[b] hi\n".toList [⟨['a'], 0, .none, .none⟩] true).2 = .ok t →
        rewrite t [⟨['a'], 0, .none, .none⟩] true = ([], .ok t) := by
  have hnamed : ∀ tag ∈ [(⟨['a'], 0, .none, .none⟩ : Tag)], tag.IsNamed := by
    intro tag h
    rw [List.mem_singleton.mp h]
    exact ⟨.none, .none⟩
  obtain ⟨-, hsame⟩ := rewrite_append hnamed hnamed true "##[a]~ ##[b] hi\n".toList
  exact ⟨hnamed, hsame fun tag h => ⟨tag, h, rfl⟩⟩

end Rewrite

end Marginalia
