import Marginalia.Proofs.Remark.Items

/-!
# The programs of a text with remarks

A text with directives gives three programs: its own, where a directive is a comment; the one of its
own lines, where it holds the place of a statement; and the rewritten one, where it has turned into
debug calls. They differ in remarks only.

## Main results

* `Remark.exists_items_held`: the program of the rewritten text has debug calls in these places
* `Remark.items_eq_of_held`: the program of the text has nothing there
-/

namespace Marginalia

open Program Rewrite

namespace Remark

variable {tags : List Tag} {s t : Text} {ss : List Text} {p : Text} {d : Directive} {tag : Tag}
  {f : Text → Directive → Tag → Text}

/-! ## Indentations -/

/-- What stands in the place of a directive is a line of the rendering. -/
theorem mem_rawLines_rendered (hs : IsSegments ss) (hp : p ∈ ss)
    (hc : claimed? tags p = some (d, tag))
    (hf : ∀ p ∈ ss, ∀ d tag, claimed? tags p = some (d, tag) → (f p d tag).OneLine) :
    f p d tag ∈ Text.rawLines (ss.map (rendered f tags)).flatten := by
  induction hs with
  | last hl =>
    obtain rfl := List.mem_singleton.mp hp
    have hone := hf p (by simp) d tag hc
    simp only [List.map_cons, List.map_nil, List.flatten_cons, List.flatten_nil, List.append_nil]
    rw [rendered_of_claimed? f hc, rawLines_rendered hone (ofLine?_of_claimed? hc)]
    exact List.mem_cons_self
  | @cons l rest hl _ ih =>
    obtain ⟨hfirst, hrest⟩ := List.forall_mem_cons.mp hf
    rw [List.map_cons, List.flatten_cons]
    rcases List.mem_cons.mp hp with rfl | hp
    · rw [rawLines_rendered_append hc (hfirst d tag hc)]
      exact List.mem_cons_self
    · -- whatever becomes of the first segment stands in front
      have hmem := ih hp hrest
      cases hc' : claimed? tags (l ++ ['\n']) with
      | none =>
        rw [rendered_of_none f hc', Text.rawLines_append]
        exact List.mem_append_right _ hmem
      | some c =>
        rw [rawLines_rendered_append hc' (hfirst c.1 c.2 hc')]
        exact List.mem_cons_of_mem _ (List.mem_append_right _ hmem)

/-- Where a rendering is a program, its directives are indented with blanks that may stand between
tokens. -/
theorem isGap_of_rendered (hs : IsSegments ss) {u : Text}
    (hu : u = (ss.map (rendered f tags)).flatten) {is : List Item} (hi : items u = .ok is) (hp : p ∈ ss)
    (hc : claimed? tags p = some (d, tag))
    (hf : ∀ p ∈ ss, ∀ d tag, claimed? tags p = some (d, tag) → (f p d tag).OneLine) {r : Text}
    (hr : f p d tag = d.indent ++ r) : ∀ c ∈ d.indent, isGap c = true := by
  obtain ⟨-, gs, -, -, hgs, -⟩ := items_eq_ok_iff.mp hi
  have hmem := mem_rawLines_rendered hs hp hc hf
  rw [← hu] at hmem
  obtain ⟨n, ts, ht⟩ := hgs.exists_tokens hmem
  rw [hr] at ht
  exact isGap_of_tokens (fun c => Directive.isInlineBlank_of_mem_indent (ofLine?_of_claimed? hc)) ht

/-! ## What stands in the place of a directive -/

theorem oneLine_callBody (execEnabled : Bool) (hc : claimed? tags p = some (d, tag)) :
    (callBody execEnabled p d tag).OneLine := by
  have hindent := Directive.oneLine_indent (ofLine?_of_claimed? hc)
  unfold callBody codeBody
  split
  · split
    · exact hindent.append (Directive.oneLine_payload (ofLine?_of_claimed? hc))
    · exact Text.OneLine.nil
  · exact hindent.append Directive.oneLine_invocation

theorem oneLine_placeBody (hc : claimed? tags p = some (d, tag)) : (placeBody p d tag).OneLine := by
  have hpass : Text.OneLine passWord := (by decide : ∀ c ∈ passWord, isLineEnd c = false)
  unfold placeBody
  split
  · exact Text.OneLine.nil
  · exact (Directive.oneLine_indent (ofLine?_of_claimed? hc)).append hpass

theorem says_placeTokens {indent : Text} (hi : ∀ c ∈ indent, isGap c = true) :
    Says (indent ++ passWord) placeTokens := by
  have hlexes : Lexes (passWord ++ []) [word passWord] [] :=
    lexes_word (by decide) (by decide) (by simp)
  exact says_of_lexes hi hlexes fun _ _ => rfl

/-- The indentation of a directive is that of what stands in its place. -/
theorem indent_eq {indent : Text} (hi : ∀ c ∈ indent, isGap c = true) {x y : Char} {u v : Text}
    (hx : isGap x = false) (hy : isGap y = false) :
    Indent.ofLine (indent ++ x :: u) = Indent.ofLine (indent ++ y :: v) := by
  rw [indent_ofLine hi hx, indent_ofLine hi hy]

theorem kind_of_ofDirective? {r : Remark} (hr : ofDirective? d tag = some r) : d.kind ≠ .exec := by
  intro hk
  rw [ofDirective?, hk] at hr
  cases hr

/-- What stands in the place of a remark in a rewritten text says its calls. -/
theorem exists_says_callBody (execEnabled : Bool) (hi : ∀ c ∈ d.indent, isGap c = true)
    {r : Remark} (hr : ofDirective? d tag = some r)
    (hd : ¬ (0 < tag.depth ∧ Digits.tooLong tag.depth = true)) :
    ∃ ts, IsReading ts r.calls ∧ Says (callBody execEnabled p d tag) ts := by
  obtain ⟨ts, hlexes, hreading⟩ := exists_reading hr hd
  refine ⟨ts, hreading, ?_⟩
  rw [callBody, if_neg (kind_of_ofDirective? hr)]
  exact says_of_lexes hi hlexes fun n => hreading.closes n 0

/-- A segment in the rewritten text and in the program of the own lines. -/
theorem fits_calls (hs : IsSegments ss) {u : Text}
    (hu : u = (ss.map (rendered (callBody false) tags)).flatten)
    {is : List Item} (hi : items u = .ok is) (hp : p ∈ ss)
    (hread : ∀ d tag, claimed? tags p = some (d, tag) → d.kind = .dump →
      ∀ e ∈ DumpEntry.ofPayload d.payload, (expression? e.expression).isSome = true)
    (hdepth : ∀ d tag, claimed? tags p = some (d, tag) → d.kind ≠ .exec →
      ¬ (0 < tag.depth ∧ Digits.tooLong tag.depth = true)) :
    Fits Calls (callBody false) placeBody tags p := by
  intro d tag hc
  refine ⟨oneLine_callBody false hc, oneLine_placeBody hc, ?_⟩
  by_cases hk : d.kind = .exec
  · -- code is no remark, and nothing stands in its place in either text
    have hnone : ofDirective? d tag = none := by rw [ofDirective?, hk]
    rw [hnone, callBody, placeBody, if_pos hk, if_pos hk, codeBody_false]
    exact .own []
  · obtain ⟨r, hr⟩ := exists_ofDirective? tag hk (hread d tag hc)
    have hgap := isGap_of_rendered hs hu hi hp hc (fun _ _ _ _ => oneLine_callBody false)
      (if_neg hk : callBody false p d tag = _)
    obtain ⟨ts, hreading, htokens⟩ :=
      exists_says_callBody (p := p) false hgap hr (hdepth d tag hc hk)
    obtain ⟨v, hv⟩ :=
      Invocation.exists_line_eq (i := d.invocation tag) (Directive.kind_invocation hk)
    rw [hr, placeBody, if_neg hk]
    refine .remark ⟨hreading, rfl⟩ hreading.ne_nil htokens (says_placeTokens hgap) ?_
    rw [callBody, if_neg hk, hv]
    exact indent_eq hgap (by decide) (by decide)

/-- A segment in the program of the own lines and in the text. -/
theorem fits_vanishes (hs : IsSegments ss) {is : List Item} (hi : items ss.flatten = .ok is)
    (hp : p ∈ ss)
    (hread : ∀ d tag, claimed? tags p = some (d, tag) → d.kind = .dump →
      ∀ e ∈ DumpEntry.ofPayload d.payload, (expression? e.expression).isSome = true) :
    Fits Vanishes placeBody ownBody tags p := by
  intro d tag hc
  have hone : ∀ {p d tag}, claimed? tags p = some (d, tag) → (body p).OneLine := fun h =>
    Directive.oneLine_body (ofLine?_of_claimed? h)
  refine ⟨oneLine_placeBody hc, hone hc, ?_⟩
  obtain ⟨r, hr⟩ := Directive.exists_eq_indent_append (ofLine?_of_claimed? hc)
  have hself : ss.flatten = (ss.map (rendered ownBody tags)).flatten := by
    rw [funext (rendered_ownBody tags), List.map_id']
  have hgap := isGap_of_rendered hs hself hi hp hc (fun _ _ _ _ => hone) hr
  by_cases hk : d.kind = .exec
  · have hnone : ofDirective? d tag = none := by rw [ofDirective?, hk]
    rw [hnone, placeBody, if_pos hk, ownBody, hr]
    exact .silent says_nil (says_comment hgap r)
  · obtain ⟨remark, hremark⟩ := exists_ofDirective? tag hk (hread d tag hc)
    rw [hremark, placeBody, if_neg hk, ownBody, hr]
    exact .remark ⟨rfl, rfl⟩ (by simp [placeTokens]) (says_placeTokens hgap) (says_comment hgap r)
      (indent_eq hgap (by decide) (by decide))

/-! ## Whole texts -/

theorem ne_zero_of_held
    (hs : ∀ c ∈ ((segments s).map (rendered (callBody false) tags)).flatten, c.toNat ≠ 0) :
    ∀ c ∈ held tags s, c.toNat ≠ 0 := by
  have hpass : ∀ c ∈ passWord, c.toNat ≠ 0 := by decide
  intro c hc
  obtain ⟨q, hq, hcq⟩ := List.mem_flatten.mp hc
  obtain ⟨p, hp, rfl⟩ := List.mem_map.mp hq
  have hall : ∀ c ∈ rendered (callBody false) tags p, c.toNat ≠ 0 := fun c hc =>
    hs c (List.mem_flatten.mpr ⟨_, List.mem_map_of_mem hp, hc⟩)
  cases hclaimed : claimed? tags p with
  | none =>
    rw [rendered_of_none _ hclaimed] at hall hcq
    exact hall c hcq
  | some x =>
    obtain ⟨d, tag⟩ := x
    rw [rendered_of_claimed? _ hclaimed] at hall hcq
    rcases List.mem_append.mp hcq with hcq | hcq
    · -- the place has the indentation of the call
      unfold placeBody at hcq
      split at hcq
      · cases hcq
      · next hk =>
        rw [callBody, if_neg hk] at hall
        rcases List.mem_append.mp hcq with hcq | hcq
        · exact hall c (by simp [hcq])
        · exact hpass c hcq
    · exact hall c (List.mem_append_right _ hcq)

theorem isSound_of_spread {a : Nat → Option Remark} {is : List Item}
    (h : ∀ i ∈ is.flatMap (spreadItem a calls), i.IsSound) : ∀ i ∈ is, i.IsSound := by
  intro i hi
  have hall : ∀ j ∈ spreadItem a calls i, j.IsSound := fun j hj =>
    h j (List.mem_flatMap.mpr ⟨i, hi, hj⟩)
  cases i with
  | routine r =>
    have hr := hall _ List.mem_cons_self
    exact ⟨hr.name, hr.place⟩
  | statement s =>
    refine ⟨rfl, ?_⟩
    obtain ⟨n, st⟩ := s
    cases st with
    | leave right =>
      exact (hall (.statement ⟨n, .leave right⟩) (by simp [spreadItem, spread])).place
    | _ => rfl

/-- **The program of the rewritten text** is that of the own lines with the calls of its remarks. -/
theorem exists_items_held (ht : ∀ tag ∈ tags, tag.IsNamed) (hread : Readable tags s)
    (hrewrite : (rewrite s tags false).2 = .ok t) {js : List Item} (hjs : items t = .ok js) :
    ∃ is, items (held tags s) = .ok is ∧ js = is.flatMap (spreadItem (at? tags s) calls) := by
  obtain ⟨rfl, hdepth⟩ := rewrite_eq_rendered ht hrewrite
  obtain ⟨hnull, gx, lx, body, hgx, hlx, hg, hsound⟩ := items_eq_ok_iff.mp hjs
  have hsegments := isSegments_segments s
  have hparallel := parallel_rendered (R := Calls) (a := at? tags s) (n := 1) hsegments
    (at?_add tags s) fun p hp =>
      fits_calls hsegments rfl hjs hp (fun d tag hc => hread p hp (d, tag) hc) (hdepth p hp)
  have hplace : ∀ r ts ts', Calls r ts ts' → nesting 0 ts' ≤ maxNesting := by
    rintro r ts ts' ⟨-, rfl⟩
    exact Nat.zero_le _
  obtain ⟨gy, hgy, hmerged⟩ := exists_utters_of_parallel hplace hparallel hgx
  obtain ⟨ly, body', is, hly, hg', -, rfl⟩ := exists_gathers_of_calls hmerged hlx hg
  exact ⟨is, items_eq_ok_iff.mpr
    ⟨ne_zero_of_held hnull, gy, ly, body', hgy, hly, hg', isSound_of_spread hsound⟩, rfl⟩

/-- **The program of the text** is that of its own lines without the places of its remarks. -/
theorem items_eq_of_held (hread : Readable tags s) {is js : List Item}
    (his : items (held tags s) = .ok is) (hjs : items s = .ok js) :
    js = is.flatMap (spreadItem (at? tags s) noCalls) := by
  obtain ⟨-, gx, lx, body, hgx, hlx, hg, -⟩ := items_eq_ok_iff.mp his
  obtain ⟨-, gy, ly, body', hgy, hly, hg', -⟩ := items_eq_ok_iff.mp hjs
  have hsegments := isSegments_segments s
  rw [← flatten_segments s] at hjs
  have hparallel := parallel_rendered (R := Vanishes) (a := at? tags s) (n := 1) hsegments
    (at?_add tags s) fun p hp =>
      fits_vanishes hsegments hjs hp fun d tag hc => hread p hp (d, tag) hc
  rw [funext (rendered_ownBody tags), List.map_id', flatten_segments] at hparallel
  have hnothing : ∀ r ts ts', Vanishes r ts ts' → nesting 0 ts' ≤ maxNesting := by
    rintro r ts ts' ⟨-, rfl⟩
    exact Nat.zero_le _
  obtain ⟨gy', hgy', hmerged⟩ := exists_utters_of_parallel hnothing hparallel hgx
  obtain rfl := hgy.eq hgy'
  exact (gathers_eq_of_vanishes hmerged .outside .outside hlx hg hly hg').2

end Remark

end Marginalia
