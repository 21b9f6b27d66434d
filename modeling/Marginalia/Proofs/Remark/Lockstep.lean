import Marginalia.Proofs.Program.Gathering
import Marginalia.Proofs.Remark.Source

/-!
# Texts that differ in remarks only

Two renderings of a text have the same lines, except for those that hold remarks. So they say the
same, except for what they say on these lines, since every line closes the brackets that it opens.

## Main definitions

* `Remark.Parallel`: lines of two texts that differ in remarks only
* `Remark.Merged`: what two such texts say

## Main results

* `Remark.parallel_rendered`: renderings of segments are parallel
* `Remark.exists_utters_of_parallel`: parallel texts say the same but for remarks
-/

namespace Marginalia

open Program

namespace Remark

/-- How two texts have a line that may hold a remark. -/
inductive LinePair (R : Remark → List Token → List Token → Prop) : Option Remark → Text → Text → Prop
  | own (x : Text) : LinePair R none x x
  | silent {x y : Text} (hx : Says x []) (hy : Says y []) : LinePair R none x y
  | remark {r : Remark} {x y : Text} {ts ts' : List Token} (h : R r ts ts') (hne : ts ≠ [])
    (hx : Says x ts) (hy : Says y ts') (hi : Indent.ofLine x = Indent.ofLine y) :
    LinePair R (some r) x y

/-- Lines of two texts, from a number on, that differ in remarks only. -/
inductive Parallel (a : Nat → Option Remark) (R : Remark → List Token → List Token → Prop) :
    Nat → List Text → List Text → Prop
  | nil (n : Nat) : Parallel a R n [] []
  | cons {n : Nat} {x y : Text} {xs ys : List Text} (h : LinePair R (a n) x y)
    (t : Parallel a R (n + 1) xs ys) : Parallel a R n (x :: xs) (y :: ys)

/-- What two texts say that differ in remarks only. -/
inductive Merged (a : Nat → Option Remark) (R : Remark → List Token → List Token → Prop) :
    List Said → List Said → Prop
  | nil : Merged a R [] []
  | own {s : Said} {gx gy : List Said} (h : a s.number = none) (t : Merged a R gx gy) :
    Merged a R (s :: gx) (s :: gy)
  | remark {r : Remark} {n : Nat} {i : Indent} {ts ts' : List Token} {gx gy : List Said}
    (h : a n = some r) (hR : R r ts ts') (hne : ts' ≠ []) (t : Merged a R gx gy) :
    Merged a R (⟨n, i, ts⟩ :: gx) (⟨n, i, ts'⟩ :: gy)
  | gone {r : Remark} {n : Nat} {i : Indent} {ts : List Token} {gx gy : List Said}
    (h : a n = some r) (hR : R r ts []) (t : Merged a R gx gy) : Merged a R (⟨n, i, ts⟩ :: gx) gy

variable {a : Nat → Option Remark} {R : Remark → List Token → List Token → Prop} {n : Nat}

/-! ## Renderings -/

section Renderings

open Rewrite

variable {tags : List Tag} {p : Text} {ss : List Text} {f g : Text → Directive → Tag → Text}

/-- Lines that both texts have. -/
theorem Parallel.own_append {xs ys zs : List Text} (ha : ∀ k < xs.length, a (n + k) = none)
    (h : Parallel a R (n + xs.length) ys zs) : Parallel a R n (xs ++ ys) (xs ++ zs) := by
  induction xs generalizing n with
  | nil => exact h
  | cons x xs ih =>
    have hn : a n = none := ha 0 (by simp)
    refine .cons (hn ▸ .own x) (ih (fun k hk => ?_) ?_)
    · rw [Nat.add_assoc, Nat.add_comm 1]
      exact ha (k + 1) (by simpa using hk)
    · rwa [List.length_cons, Nat.add_comm xs.length, ← Nat.add_assoc] at h

theorem perLine_between {k : Nat} (hk : k < p.lineEnds - 1) :
    ((perLine tags (p :: ss))[k + 1]?).join = none := by
  rw [perLine, List.cons_append, List.getElem?_cons_succ,
    List.getElem?_append_left (by simpa using hk)]
  simp [hk]

theorem perLine_rest (hp : 0 < p.lineEnds) (k : Nat) :
    (perLine tags (p :: ss))[p.lineEnds + k]? = (perLine tags ss)[k]? := by
  obtain ⟨j, hj⟩ := Nat.exists_eq_add_of_lt hp
  rw [perLine, List.cons_append, hj, show 0 + j + 1 + k = (j + k) + 1 by omega,
    List.getElem?_cons_succ, List.getElem?_append_right (by simp)]
  simp

/-- The last segment has no remark on the lines after the first one. -/
theorem perLine_last (k : Nat) : ((perLine tags [p])[k + 1]?).join = none := by
  rw [perLine, perLine, List.append_nil, List.getElem?_cons_succ]
  by_cases hk : k < p.lineEnds - 1
  · simp [hk]
  · simp [hk]

/-- What two renderings have to do with a segment. -/
def Fits (R : Remark → List Token → List Token → Prop) (f g : Text → Directive → Tag → Text)
    (tags : List Tag) (p : Text) : Prop :=
  ∀ d tag, claimed? tags p = some (d, tag) →
    (f p d tag).OneLine ∧ (g p d tag).OneLine ∧
      LinePair R (ofDirective? d tag) (f p d tag) (g p d tag)

theorem on?_of_claimed? {d : Directive} {tag : Tag} (h : claimed? tags p = some (d, tag)) :
    on? tags p = ofDirective? d tag := by
  rw [on?, h]
  rfl

theorem on?_of_none (h : claimed? tags p = none) : on? tags p = none := by
  rw [on?, h]
  rfl

/-- The lines of the last segment. -/
theorem parallel_last (ha : ∀ k, a (n + k) = ((perLine tags [p])[k]?).join)
    (h : Fits R f g tags p) :
    Parallel a R n (rendered f tags p).rawLines (rendered g tags p).rawLines := by
  have hfirst : a n = on? tags p := ha 0
  cases hc : claimed? tags p with
  | none =>
    rw [rendered_of_none f hc, rendered_of_none g hc, ← List.append_nil p.rawLines]
    refine Parallel.own_append (fun k _ => ?_) (.nil _)
    cases k with
    | zero => exact hfirst.trans (on?_of_none hc)
    | succ k => exact (ha (k + 1)).trans (perLine_last k)
  | some c =>
    obtain ⟨d, tag⟩ := c
    obtain ⟨hf, hg, hpair⟩ := h d tag hc
    have hd := ofLine?_of_claimed? hc
    rw [rendered_of_claimed? f hc, rendered_of_claimed? g hc, rawLines_rendered hf hd,
      rawLines_rendered hg hd, ← List.append_nil (List.replicate _ _)]
    refine .cons (by rwa [hfirst, on?_of_claimed? hc]) (.own_append (fun k _ => ?_) (.nil _))
    rw [Nat.add_assoc, Nat.add_comm 1]
    exact (ha (k + 1)).trans (perLine_last k)

/-- The front of a segment with a claimed directive. -/
theorem rawLines_rendered_append {d : Directive} {tag : Tag} {l : Text}
    (hc : claimed? tags (l ++ ['\n']) = some (d, tag)) (hf : (f (l ++ ['\n']) d tag).OneLine)
    (t : Text) : Text.rawLines (rendered f tags (l ++ ['\n']) ++ t) =
      f (l ++ ['\n']) d tag ::
        (List.replicate (Text.lineEnds (l ++ ['\n']) - 1) [] ++ t.rawLines) := by
  have hraw := rawLines_rendered hf (ofLine?_of_claimed? hc)
  obtain ⟨j, hj⟩ := Nat.exists_eq_add_of_lt (Text.lineEnds_snoc l)
  rw [Nat.zero_add] at hj
  rw [rendered_of_claimed? f hc]
  rw [terminator_snoc, ← List.append_assoc] at hraw ⊢
  rw [Text.rawLines_append, Text.front, hraw, hj, List.replicate_succ', ← List.cons_append,
    List.dropLast_concat]
  rfl

/-- **Renderings of segments are parallel.** -/
theorem parallel_rendered (hs : IsSegments ss)
    (ha : ∀ k, a (n + k) = ((perLine tags ss)[k]?).join) (h : ∀ p ∈ ss, Fits R f g tags p) :
    Parallel a R n (Text.rawLines (ss.map (rendered f tags)).flatten)
      (Text.rawLines (ss.map (rendered g tags)).flatten) := by
  induction hs generalizing n with
  | last hl =>
    simp only [List.map_cons, List.map_nil, List.flatten_cons, List.flatten_nil, List.append_nil]
    exact parallel_last ha (h _ (by simp))
  | @cons l rest hl _ ih =>
    obtain ⟨hp, hrest⟩ := List.forall_mem_cons.mp h
    have hends := Text.lineEnds_snoc l
    have hfirst : a n = on? tags (l ++ ['\n']) := ha 0
    have htail := ih (n := n + Text.lineEnds (l ++ ['\n'])) (fun k => by
      rw [Nat.add_assoc, ha, perLine_rest hends]) hrest
    rw [List.map_cons, List.map_cons, List.flatten_cons, List.flatten_cons]
    cases hc : claimed? tags (l ++ ['\n']) with
    | none =>
      -- both texts have the segment as it is
      rw [rendered_of_none f hc, rendered_of_none g hc, Text.rawLines_append, Text.rawLines_append]
      have hlen : (Text.front (l ++ ['\n'])).length = Text.lineEnds (l ++ ['\n']) :=
        Text.length_front l
      refine Parallel.own_append (fun k hk => ?_) (by rwa [hlen])
      cases k with
      | zero => exact hfirst.trans (on?_of_none hc)
      | succ k => exact (ha (k + 1)).trans (perLine_between (by omega))
    | some c =>
      obtain ⟨d, tag⟩ := c
      obtain ⟨hf, hg, hpair⟩ := hp d tag hc
      -- the remark is on the first line, and empty lines keep the numbers of those below
      rw [rawLines_rendered_append hc hf, rawLines_rendered_append hc hg]
      refine .cons (by rwa [hfirst, on?_of_claimed? hc]) (.own_append (fun k hk => ?_) ?_)
      · rw [Nat.add_assoc, Nat.add_comm 1]
        exact (ha (k + 1)).trans (perLine_between (by simpa using hk))
      · rw [List.length_replicate, Nat.add_assoc, Nat.add_sub_cancel' hends]
        exact htail

/-- The remarks of a text, line by line. -/
theorem at?_add (tags : List Tag) (s : Text) (k : Nat) :
    at? tags s (1 + k) = ((perLine tags (segments s))[k]?).join := by
  rw [at?, Nat.add_comm, List.getElem?_cons_succ]

end Renderings

/-! ## What parallel texts say -/

/-- **Parallel texts say the same but for remarks**, if the second one is not nested too deep where
they hold them. -/
theorem exists_utters_of_parallel (hR : ∀ r ts ts', R r ts ts' → nesting 0 ts' ≤ maxNesting)
    {xs ys : List Text} (h : Parallel a R n xs ys) {gx : List Said} (hx : Utters n xs gx) :
    ∃ gy, Utters n ys gy ∧ Merged a R gx gy := by
  induction h generalizing gx with
  | nil n =>
    cases hx
    exact ⟨[], .nil n, .nil⟩
  | @cons n x y xs ys hpair _ ih =>
    generalize hn : a n = r? at hpair
    cases hpair with
    | own =>
      -- both texts have the line, so that they say the same on it
      cases hx with
      | silent ht hx =>
        obtain ⟨gy, hy, hmerged⟩ := ih hx
        exact ⟨gy, .silent ht hy, hmerged⟩
      | said hts ht hdeep hx =>
        obtain ⟨gy, hy, hmerged⟩ := ih hx
        exact ⟨_, .said hts ht hdeep hy, .own hn hmerged⟩
    | silent hsx hsy =>
      cases hx with
      | silent _ hx =>
        obtain ⟨gy, hy, hmerged⟩ := ih hx
        exact ⟨gy, .silent (hsy n []) hy, hmerged⟩
      | said hts ht => exact absurd (congrArg Prod.fst (Except.ok.inj (ht.symm.trans (hsx n [])))) hts
    | @remark r _ _ ts ts' hr hne hsx hsy hi =>
      cases hx with
      | silent ht => exact absurd (congrArg Prod.fst (Except.ok.inj ((hsx n []).symm.trans ht))) hne
      | said _ ht _ hx =>
        obtain rfl : ts = _ := congrArg Prod.fst (Except.ok.inj ((hsx n []).symm.trans ht))
        obtain ⟨gy, hy, hmerged⟩ := ih hx
        by_cases hts' : ts' = []
        · -- of the remark nothing is left
          subst hts'
          exact ⟨gy, .silent (hsy n []) hy, .gone hn hr hmerged⟩
        · rw [hi]
          exact ⟨_, .said hts' (hsy n []) (hR r ts ts' hr) hy, .remark hn hr hts' hmerged⟩

end Remark

end Marginalia
