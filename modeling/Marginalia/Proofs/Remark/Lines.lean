import Marginalia.Proofs.Program.Code
import Marginalia.Proofs.Remark.Programs

/-!
# The lines of a rewritten text

A rewritten text has the lines of the text that it comes from, one for one. A line with a remark has
turned into the calls of the remark, and nothing else stands on it, so that in the code of the
rewritten program the trace of a remark follows the remark at once.

## Main definitions

* `Rewrite.LineFrom`: what becomes of a line
* `Remark.IsWrittenOn`: the line of the text that a statement comes from
* `Remark.TracesFollow`: code in which traces follow remarks

## Main results

* `Rewrite.lines_of_rewrite`: the lines of a rewritten text
* `Remark.at?_of_line`: the remark on a line
* `Remark.isWrittenOn_of_rewrite`: the statements of a rewritten program
* `Remark.tracesFollow_of_rewrite`: traces follow remarks in the code of a rewritten program
-/

namespace Marginalia

open Program

namespace Rewrite

variable {tags : List Tag} {execEnabled : Bool} {p q s t : Text}

/-- What becomes of a line: it stays as it is, or the directive that it is gives way to what the tag
that claims it puts in its place. -/
inductive LineFrom (tags : List Tag) (execEnabled : Bool) (x : Text) : Text → Prop
  | same : LineFrom tags execEnabled x x
  | replaced {d : Directive} {tag : Tag} {y : Text} (hd : Directive.ofLine? x = some d)
    (hf : tags.find? (fun tag => d.names tag.name) = some tag)
    (hr : d.replacement tag execEnabled = .ok y) : LineFrom tags execEnabled x y

theorem forall₂_lineFrom_same (xs : List Text) :
    List.Forall₂ (LineFrom tags execEnabled) xs xs :=
  List.forall₂_same.mpr fun _ _ => .same

/-- The lines of a segment with a directive: the directive comes first, and the others are empty. -/
theorem rawLines_of_ofLine? {d : Directive} (hd : Directive.ofLine? (body p) = some d) :
    p.rawLines = body p :: List.replicate p.lineEnds [] := by
  have hlines := rawLines_rendered (Directive.oneLine_body hd) hd
  rwa [body_append_terminator] at hlines

/-- The lines of what becomes of a segment. -/
theorem lines_of_pieceAfter (ht : ∀ tag ∈ tags, tag.IsNamed)
    (h : pieceAfter tags execEnabled p = .ok q) :
    List.Forall₂ (LineFrom tags execEnabled) p.rawLines q.rawLines := by
  rcases pieceAfter_cases h with ⟨rfl, -⟩ | ⟨d, tag, r, hd, hf, hr, rfl⟩
  · exact forall₂_lineFrom_same _
  · have hone := Directive.oneLine_of_replacement hd (ht tag (List.mem_of_find?_eq_some hf)) hr
    rw [rawLines_of_ofLine? hd, rawLines_rendered hone hd]
    exact .cons (.replaced hd hf hr) (forall₂_lineFrom_same _)

theorem forall₂_front {l l' : Text}
    (h : List.Forall₂ (LineFrom tags execEnabled) l.rawLines l'.rawLines) :
    List.Forall₂ (LineFrom tags execEnabled) l.front l'.front := by
  rw [Text.front, Text.front, List.dropLast_eq_take, List.dropLast_eq_take, h.length_eq]
  exact List.forall₂_take _ h

/-- **The lines of a rewritten text** are what becomes of the lines, one for one. -/
theorem lines_of_rewrite (ht : ∀ tag ∈ tags, tag.IsNamed)
    (h : (rewrite s tags execEnabled).2 = .ok t) :
    List.Forall₂ (LineFrom tags execEnabled) s.rawLines t.rawLines := by
  have hall := segments_of_rewrite ht h
  have hs := isSegments_segments s
  rw [← flatten_segments s, ← flatten_segments t]
  generalize segments s = ps, segments t = qs at hall hs ⊢
  induction hs generalizing qs with
  | last hl =>
    cases hall with
    | cons hpq hrest =>
      cases hrest
      simpa using lines_of_pieceAfter ht hpq
  | cons hl _ ih =>
    cases hall with
    | cons hpq hrest =>
      obtain ⟨l', -, rfl⟩ := exists_of_pieceAfter ht hpq hl
      rw [List.flatten_cons, List.flatten_cons, Text.rawLines_append, Text.rawLines_append]
      exact List.rel_append (forall₂_front (lines_of_pieceAfter ht hpq)) (ih _ hrest)

end Rewrite

namespace Remark

open Rewrite

variable {tags : List Tag} {execEnabled : Bool} {p q s t : Text} {a : Nat → Option Remark}
  {r : Remark}

/-! ## The lines of remarks -/

/-- A line that is a directive which makes a remark under the tag that claims it. -/
def IsLineOf (tags : List Tag) (r : Remark) (x : Text) : Prop :=
  ∃ d, Directive.ofLine? x = some d ∧ tags.find? (fun tag => d.names tag.name) = some r.tag ∧
    ofDirective? d r.tag = some r

/-- A line of a segment that is the directive of a remark comes first and makes the remark, unless
the segment stays as it is. -/
theorem on?_or_same {k : Nat} {x : Text} (h : pieceAfter tags execEnabled p = .ok q)
    (hx : p.rawLines[k]? = some x) (hline : IsLineOf tags r x) :
    (k = 0 ∧ on? tags p = some r) ∨ q.rawLines[k]? = some x := by
  obtain ⟨d, hd, hf, hr⟩ := hline
  rcases pieceAfter_cases h with ⟨rfl, -⟩ | ⟨d', -, -, hd', -, -, -⟩
  · exact Or.inr hx
  rw [rawLines_of_ofLine? hd'] at hx
  cases k with
  | zero =>
    obtain rfl := Option.some.inj hx
    exact Or.inl ⟨rfl, (on?_of_claimed? (claimed?_eq_some hd hf)).trans hr⟩
  | succ k =>
    obtain rfl := List.eq_of_mem_replicate (List.mem_of_getElem? hx)
    cases hd

theorem perLine_or_same (ht : ∀ tag ∈ tags, tag.IsNamed) {ps qs : List Text} (hs : IsSegments ps)
    (h : List.Forall₂ (fun p q => pieceAfter tags execEnabled p = .ok q) ps qs) {k : Nat} {x : Text}
    (hx : (Text.rawLines ps.flatten)[k]? = some x) (hline : IsLineOf tags r x) :
    ((perLine tags ps)[k]?).join = some r ∨ (Text.rawLines qs.flatten)[k]? = some x := by
  induction hs generalizing qs k with
  | last hl =>
    cases h with
    | cons hpq hrest =>
      cases hrest
      rw [List.flatten_singleton] at hx ⊢
      refine (on?_or_same hpq hx hline).imp_left ?_
      rintro ⟨rfl, hon⟩
      exact hon
  | @cons l rest hl _ ih =>
    cases h with
    | cons hpq hrest =>
      obtain ⟨l', -, rfl⟩ := exists_of_pieceAfter ht hpq hl
      have hlen : (Text.front (l ++ ['\n'])).length = Text.lineEnds (l ++ ['\n']) :=
        Text.length_front l
      have hsame := (forall₂_front (lines_of_pieceAfter ht hpq)).length_eq
      rw [List.flatten_cons, Text.rawLines_append] at hx ⊢
      by_cases hk : k < Text.lineEnds (l ++ ['\n'])
      · -- the line is one of the first segment
        have hfront : ∀ {u : Text} {zs : List Text}, k < u.front.length →
            (u.front ++ zs)[k]? = u.rawLines[k]? := fun hk => by
          rw [List.getElem?_append_left hk, Text.front, List.getElem?_dropLast, if_pos]
          rwa [Text.front, List.length_dropLast] at hk
        rw [hfront (by omega)] at hx ⊢
        refine (on?_or_same hpq hx hline).imp_left ?_
        rintro ⟨rfl, hon⟩
        exact hon
      · -- it is one of the rest, which has as many lines in front of it in both texts
        obtain ⟨j, rfl⟩ := Nat.exists_eq_add_of_le (Nat.le_of_not_lt hk)
        rw [perLine_rest (Text.lineEnds_snoc l)]
        rw [List.getElem?_append_right (by omega)] at hx ⊢
        rw [← hsame]
        rw [hlen, Nat.add_sub_cancel_left] at hx ⊢
        exact ih hrest hx

/-- A line that is a directive says nothing in a program. -/
theorem eq_nil_of_tokens {x : Text} (hline : IsLineOf tags r x) {number : Nat} {ts : List Token}
    {opened opened' : Nesting} (h : tokens number opened x = .ok (ts, opened')) : ts = [] := by
  obtain ⟨d, hd, -⟩ := hline
  obtain ⟨u, rfl⟩ := Directive.exists_eq_indent_append hd
  have hgap := isGap_of_tokens (fun c => Directive.isInlineBlank_of_mem_indent hd) h
  have htokens := says_comment hgap u number opened
  rw [htokens] at h
  cases h
  rfl

/-- **A line that is a directive makes its remark** where a statement of the rewritten program
stands on it. Lines count from one. -/
theorem at?_of_line (ht : ∀ tag ∈ tags, tag.IsNamed)
    (h : (rewrite s tags execEnabled).2 = .ok t) {is : List Item} (hi : items t = .ok is)
    {st : Placed} (hst : st ∈ is.flatMap Item.statements) {x : Text}
    (hx : s.rawLines[st.line - 1]? = some x) (hline : IsLineOf tags r x) :
    at? tags s st.line = some r := by
  obtain ⟨hpos, raw, hraw, ts, depth, ss, htokens, hne, -⟩ := standsOn_of_items hi st hst
  obtain ⟨k, hk⟩ := Nat.exists_eq_add_of_lt hpos
  rw [Nat.zero_add] at hk
  rw [hk, Nat.add_sub_cancel] at hx hraw
  rw [hk, Nat.add_comm, at?_add]
  have hall := segments_of_rewrite ht h
  have hcases := perLine_or_same (r := r) ht (isSegments_segments s) hall (k := k) (x := x)
    (by rwa [flatten_segments]) hline
  refine hcases.resolve_right fun hsame => ?_
  rw [flatten_segments] at hsame
  obtain rfl := Option.some.inj (hraw.symm.trans hsame)
  exact hne (eq_nil_of_tokens hline htokens)

/-- A statement of a rewritten program, and the line of the text that its line comes from. Lines
count from one. -/
def IsWrittenOn (tags : List Tag) (execEnabled : Bool) (s t : Text) (st : Placed) : Prop :=
  0 < st.line ∧ ∃ x y, s.rawLines[st.line - 1]? = some x ∧ t.rawLines[st.line - 1]? = some y ∧
    LineFrom tags execEnabled x y ∧ StandsOn y st

/-- **The statements of a rewritten program** are written on the lines of the text. -/
theorem isWrittenOn_of_rewrite (ht : ∀ tag ∈ tags, tag.IsNamed)
    (h : (rewrite s tags execEnabled).2 = .ok t) {is : List Item} (hi : items t = .ok is)
    {st : Placed} (hst : st ∈ is.flatMap Item.statements) :
    IsWrittenOn tags execEnabled s t st := by
  obtain ⟨hpos, y, hy, hstands⟩ := standsOn_of_items hi st hst
  have hlines := lines_of_rewrite ht h
  have hlen : st.line - 1 < t.rawLines.length := (List.getElem?_eq_some_iff.mp hy).1
  have hlen' : st.line - 1 < s.rawLines.length := hlines.length_eq ▸ hlen
  refine ⟨hpos, _, y, List.getElem?_eq_getElem hlen', hy, ?_, hstands⟩
  rw [← (List.getElem?_eq_some_iff.mp hy).2]
  exact hlines.get hlen' hlen

/-! ## The calls on the lines of remarks -/

/-- The calls of a remark, and whatever stands in their place in another text. -/
def Reads (r : Remark) (ts _ : List Token) : Prop := IsReading ts r.calls

/-- A segment in the rewritten text, with itself. -/
theorem fits_reads {ss : List Text} (hs : IsSegments ss)
    (ht : t = (ss.map (rendered (callBody execEnabled) tags)).flatten) {is : List Item}
    (hi : items t = .ok is) (hp : p ∈ ss)
    (hdepth : ∀ d tag, claimed? tags p = some (d, tag) → d.kind ≠ .exec →
      ¬ (0 < tag.depth ∧ Digits.tooLong tag.depth = true)) :
    Fits Reads (callBody execEnabled) (callBody execEnabled) tags p := by
  intro d tag hc
  refine ⟨oneLine_callBody execEnabled hc, oneLine_callBody execEnabled hc, ?_⟩
  cases hr : ofDirective? d tag with
  | none => exact .own _
  | some r =>
    have hk := kind_of_ofDirective? hr
    have hgap := isGap_of_rendered hs ht hi hp hc (fun _ _ _ _ => oneLine_callBody execEnabled)
      (if_neg hk : callBody execEnabled p d tag = _)
    obtain ⟨ts, hreading, htokens⟩ :=
      exists_says_callBody (p := p) execEnabled hgap hr (hdepth d tag hc hk)
    exact .remark hreading hreading.ne_nil htokens htokens rfl

/-- The calls of the remark on a line, if there is one. -/
def HoldsCalls (a : Nat → Option Remark) (number : Nat) (ts : List Token) : Prop :=
  ∀ r, a number = some r → IsReading ts r.calls

theorem holdsCalls_of_parallel {n : Nat} {xs ys : List Text} {gx : List Said}
    (h : Parallel a Reads n xs ys) (hx : Utters n xs gx) :
    ∀ g ∈ gx, HoldsCalls a g.number g.tokens := by
  induction h generalizing gx with
  | nil =>
    cases hx
    simp
  | @cons n x y xs ys hpair _ ih =>
    generalize hn : a n = r? at hpair
    cases hx with
    | silent _ hx => exact ih hx
    | @said _ _ _ ts _ _ ht _ hx =>
      refine List.forall_mem_cons.mpr ⟨?_, ih hx⟩
      intro r hr
      rw [hn] at hr
      subst hr
      cases hpair with
      | remark hreads _ hsaid =>
        obtain rfl : ts = _ := congrArg Prod.fst (Except.ok.inj (ht.symm.trans (hsaid n [])))
        exact hreads

/-- **A line of a rewritten program** with a remark holds the calls of the remark and nothing
else. -/
theorem exists_gathers_of_rewrite (ht : ∀ tag ∈ tags, tag.IsNamed)
    (hr : (rewrite s tags execEnabled).2 = .ok t) {is : List Item} (hi : items t = .ok is) :
    ∃ ls body, Gathers .outside ls body is ∧
      ∀ l ∈ ls, HoldsCalls (at? tags s) l.number l.tokens := by
  obtain ⟨rfl, hdepth⟩ := rewrite_eq_rendered ht hr
  obtain ⟨-, gs, ls, body, hgs, hls, hg, -⟩ := items_eq_ok_iff.mp hi
  have hsegments := isSegments_segments s
  have hparallel := parallel_rendered (R := Reads) (a := at? tags s) (n := 1) hsegments
    (at?_add tags s) fun p hp => fits_reads hsegments rfl hi hp (hdepth p hp)
  refine ⟨ls, body, hg, fun l hl => ?_⟩
  obtain ⟨g, hgmem, hnumber, htokens⟩ := exists_said_of_levels hls hl
  rw [hnumber, htokens]
  exact holdsCalls_of_parallel hparallel hgs g hgmem

/-! ## Traces follow remarks -/

/-- Code in which the trace of a remark follows the remark at once. -/
def TracesFollow (a : Nat → Option Remark) (code : List Item) : Prop :=
  ∀ n r rest, a n = some r → 0 < r.tag.depth →
    .statement ⟨n, .debug r.mainCall⟩ :: rest <:+ code →
      ∃ rest', rest = .statement ⟨n, .debug r.traceCall⟩ :: rest'

theorem tracesFollow_nil : TracesFollow a [] := by
  intro n r rest _ _ h
  cases List.suffix_nil.mp h

theorem TracesFollow.append {code code' : List Item} (h : TracesFollow a code)
    (h' : TracesFollow a code') : TracesFollow a (code ++ code') := by
  rintro n r rest hn hd ⟨front, hfront⟩
  rcases List.append_eq_append_iff.mp hfront with ⟨back, hcode, hback⟩ | ⟨back, -, hback⟩
  · rcases List.append_eq_cons_iff.mp hback.symm with ⟨-, hsame⟩ | ⟨back', rfl, rfl⟩
    · exact h' n r rest hn hd ⟨[], hsame.symm⟩
    · obtain ⟨rest', rfl⟩ := h n r back' hn hd ⟨front, hcode.symm⟩
      exact ⟨rest' ++ code', rfl⟩
  · exact h' n r rest hn hd ⟨back, hback.symm⟩

theorem TracesFollow.routine {code : List Item} (r : Routine) (h : TracesFollow a code) :
    TracesFollow a (.routine r :: code) := by
  intro n r' rest hn hd hsuffix
  rcases List.suffix_cons_iff.mp hsuffix with hsame | hsuffix
  · cases hsame
  · exact h n r' rest hn hd hsuffix

theorem mainCall_ne_traceCall (r r' : Remark) : r.mainCall ≠ r'.traceCall := by
  unfold mainCall traceCall
  cases r.shows <;> simp

/-- The statements of a line. -/
theorem tracesFollow_statements {line : Program.Line} {ss : List Placed}
    (hl : HoldsCalls a line.number line.tokens) (hs : statements? line = some ss) :
    TracesFollow a (ss.map .statement) := by
  intro n r rest hn hd hsuffix
  have hmem : (⟨n, .debug r.mainCall⟩ : Placed) ∈ ss := by
    obtain ⟨s, hs, he⟩ := List.mem_map.mp (hsuffix.subset List.mem_cons_self)
    cases he
    exact hs
  obtain rfl : n = line.number := line_of_statements? hs _ hmem
  obtain rfl := Option.some.inj (((hl r hn).statements? line.number line.depth).symm.trans hs)
  rw [calls, if_neg (by omega)] at hsuffix
  rcases List.suffix_cons_iff.mp hsuffix with hsame | hsuffix
  · exact ⟨[], (List.cons.inj hsame).2⟩
  · rcases List.suffix_cons_iff.mp hsuffix with hsame | hsuffix
    · have hcall : r.mainCall = r.traceCall := by simpa using (List.cons.inj hsame).1
      exact absurd hcall (mainCall_ne_traceCall r r)
    · cases List.suffix_nil.mp hsuffix

theorem tracesFollow_of_gathers {b : Block} {ls : List Program.Line} {body : List Placed}
    {is : List Item}
    (h : Gathers b ls body is) (hl : ∀ l ∈ ls, HoldsCalls a l.number l.tokens) :
    TracesFollow a (body.map .statement) ∧ TracesFollow a is ∧
      ∀ r, .routine r ∈ is → TracesFollow a (r.body.map .statement) := by
  induction h with
  | nil => exact ⟨tracesFollow_nil, tracesFollow_nil, by simp⟩
  | header _ _ _ _ ih =>
    -- what has been open below the header is the body of its function
    obtain ⟨hbody, his, hroutines⟩ := ih (List.forall_mem_cons.mp hl).2
    refine ⟨tracesFollow_nil, his.routine _, fun r hr => ?_⟩
    rcases List.mem_cons.mp hr with hr | hr
    · cases hr
      exact hbody
    · exact hroutines r hr
  | outside _ _ _ hss _ ih =>
    obtain ⟨hfirst, hrest⟩ := List.forall_mem_cons.mp hl
    obtain ⟨hbody, his, hroutines⟩ := ih hrest
    refine ⟨hbody, (tracesFollow_statements hfirst hss).append his, fun r hr => ?_⟩
    rcases List.mem_append.mp hr with hr | hr
    · obtain ⟨s, -, hs⟩ := List.mem_map.mp hr
      cases hs
    · exact hroutines r hr
  | inside _ _ hss _ ih =>
    obtain ⟨hfirst, hrest⟩ := List.forall_mem_cons.mp hl
    obtain ⟨hbody, his, hroutines⟩ := ih hrest
    refine ⟨?_, his, hroutines⟩
    rw [List.map_append]
    exact (tracesFollow_statements hfirst hss).append hbody

/-- **Traces follow remarks** in the code of a rewritten program. -/
theorem tracesFollow_of_rewrite (ht : ∀ tag ∈ tags, tag.IsNamed)
    (hr : (rewrite s tags execEnabled).2 = .ok t) {is code : List Item} {name : Option Text}
    (hi : items t = .ok is) (hc : IsCode is name code) : TracesFollow (at? tags s) code := by
  obtain ⟨ls, body, hg, hl⟩ := exists_gathers_of_rewrite ht hr hi
  obtain ⟨-, his, hroutines⟩ := tracesFollow_of_gathers hg hl
  cases hc with
  | outside => exact his
  | inside h => exact hroutines _ h

end Remark

end Marginalia
