import Mathlib.Data.List.Forall2
import Marginalia.Filter
import Marginalia.Proofs.Rewrite.LineByLine

/-!
# Filtering without code

Code in directives is run where the caller asks for it and nowhere else: no settings enable it.
Without it a line of a filtered text is a line of the text, a line without anything in it, or a call
of the library, and what the code would be makes no difference to the filtered text.

## Main definitions

* `Rewrite.Harmless`: what becomes of a line without code being run
* `Rewrite.SameButCode`: texts that differ only in code that some tags claim

## Main results

* `Options.execEnabled_of_resolve`: settings do not enable code
* `Rewrite.harmless_of_rewrite`: what rewriting without code makes of lines
* `Rewrite.rewrite_eq_of_sameButCode`: rewriting without code does not depend on the code
* `Options.filter_without_code`: the same for filtering under options
-/

namespace Marginalia

/-! ## Options -/

namespace Options

variable {tree : FileTree} {σ : Store} {o : Options} {c : Config}

theorem execEnabled_of_config (h : o.config σ = .ok (some c)) :
    c.execEnabled = σ.truthy o.execEnabled := by
  unfold config at h
  split at h
  · split at h
    · cases h
    split at h
    · cases h
    · cases h
      rfl
  · cases h

/-- **Settings do not enable code.** -/
theorem execEnabled_of_resolve (h : (o.resolve tree σ).2 = .ok (some c)) :
    c.execEnabled = σ.truthy o.execEnabled := by
  unfold resolve at h
  split at h
  · cases h
  next settings _ =>
  cases settings with
  | none => exact execEnabled_of_config h
  | some settings =>
    dsimp only [configFrom] at h
    split at h
    · cases h
    · -- the members of the settings replace everything but this option
      exact (execEnabled_of_config h).trans rfl

end Options

namespace Rewrite

variable {tag : Tag} {tags : List Tag} {s s' t p q : Text}

/-! ## What becomes of lines -/

/-- What becomes of a line without code being run: it stays as it is, or nothing is left of it but
what ends it, or a call of the library stands behind its indentation. -/
inductive Harmless (p : Text) : Text → Prop
  | kept : Harmless p p
  | emptied : Harmless p (terminator p)
  | call {r : Text} (h : r.OneLine) :
    Harmless p (p.takeWhile isInlineBlank ++ Invocation.library ++ r ++ terminator p)

/-- The indentation of a directive is that of its line. -/
theorem takeWhile_of_ofLine? {d : Directive} (h : Directive.ofLine? (body p) = some d) :
    p.takeWhile isInlineBlank = d.indent := by
  obtain ⟨r, hr⟩ := Directive.exists_eq_indent_append h
  have hp : p = d.indent ++ '#' :: (r ++ terminator p) := by
    rw [← List.cons_append, ← List.append_assoc, ← hr, body_append_terminator]
  rw [hp, List.takeWhile_append_of_pos fun c => Directive.isInlineBlank_of_mem_indent h,
    List.takeWhile_cons_of_neg (by decide), List.append_nil]

theorem replacement_of_disabled {d : Directive} (hk : d.kind = .exec) (tag : Tag) :
    d.replacement tag false = .ok [] :=
  Directive.replacement_of_exec hk

theorem harmless_of_pieceAfter (ht : ∀ tag ∈ tags, tag.IsNamed)
    (h : pieceAfter tags false p = .ok q) : Harmless p q := by
  rcases pieceAfter_cases h with ⟨rfl, -⟩ | ⟨d, tag, r, hd, hf, hr, rfl⟩
  · exact .kept
  by_cases hk : d.kind = .exec
  · rw [replacement_of_disabled hk] at hr
    obtain rfl := Except.ok.inj hr
    exact .emptied
  · have hnamed := ht tag (List.mem_of_find?_eq_some hf)
    have hone := Directive.oneLine_of_replacement hd hnamed hr
    rcases Directive.replacement_cases hnamed hr with ⟨-, rfl⟩ | ⟨hexec, -⟩ | ⟨hexec, -⟩
    · obtain ⟨r, hline⟩ := Invocation.exists_line_eq_library (i := d.invocation tag)
        (Directive.kind_invocation hk)
      rw [hline, ← List.append_assoc, ← takeWhile_of_ofLine? hd] at hone ⊢
      exact .call fun c hc => hone c (List.mem_append_right _ hc)
    · exact absurd hexec hk
    · exact absurd hexec hk

/-- **What rewriting without code makes of lines.** -/
theorem harmless_of_rewrite (ht : ∀ tag ∈ tags, tag.IsNamed)
    (h : (rewrite s tags false).2 = .ok t) :
    List.Forall₂ Harmless (segments s) (segments t) :=
  (segments_of_rewrite ht h).imp fun _ _ => harmless_of_pieceAfter ht

/-! ## Texts that differ in code -/

/-- Two lines that are the same, or two directives with different code that one of the tags
claims. -/
inductive SameButCodeLine (tags : List Tag) (p : Text) : Text → Prop
  | same : SameButCodeLine tags p p
  | code {q : Text} {d : Directive} {payload : Text} (left : Directive.ofLine? (body p) = some d)
    (right : Directive.ofLine? (body q) = some { d with payload })
    (ends : terminator q = terminator p) (kind : d.kind = .exec) {tag : Tag} (active : tag ∈ tags)
    (names : d.names tag.name = true) : SameButCodeLine tags p q

/-- Texts that differ only in code that some tags claim. -/
def SameButCode (tags : List Tag) (s s' : Text) : Prop :=
  List.Forall₂ (SameButCodeLine tags) (segments s) (segments s')

/-- Where no tag claims code, texts that differ only in claimed code are the same. -/
theorem eq_of_sameButCode_nil (h : SameButCode [] s s') : s = s' := by
  have hsame : segments s = segments s' := by
    refine List.forall₂_eq_eq_eq ▸ h.imp fun p q hpq => ?_
    cases hpq with
    | same => rfl
    | code _ _ _ _ active => cases active
  rw [← flatten_segments s, hsame, flatten_segments]

/-- Two lines on the way that are the same, or two directives with different code that one of the
tags to come claims. -/
inductive Line.SameButCode (tags : List Tag) : Line → Line → Prop
  | same (l : Line) : SameButCode tags l l
  | code {p q : Text} {d : Directive} (payload : Text) (ends : terminator q = terminator p)
    (kind : d.kind = .exec) {tag : Tag} (active : tag ∈ tags) (names : d.names tag.name = true) :
    SameButCode tags (.pending p d) (.pending q { d with payload })

/-- What two passes give that differ only in code: the same fault, or as many claims and lines that
differ only in code. -/
inductive SameClaims (tags : List Tag) :
    Except InvocationFault (List Line × Nat) → Except InvocationFault (List Line × Nat) → Prop
  | error (e : InvocationFault) : SameClaims tags (.error e) (.error e)
  | ok {ls ls' : List Line} (n : Nat) (h : List.Forall₂ (Line.SameButCode tags) ls ls') :
    SameClaims tags (.ok (ls, n)) (.ok (ls', n))

/-- Passes go on alike behind lines that differ only in code. -/
theorem SameClaims.cons {l l' : Line} {x x' : Except InvocationFault (List Line × Nat)}
    (h : SameClaims tags x x') (hl : Line.SameButCode tags l l') (k : Nat) :
    SameClaims tags (x.map fun r => (l :: r.1, r.2 + k))
      (x'.map fun r => (l' :: r.1, r.2 + k)) := by
  cases h with
  | error e => exact .error e
  | ok n hls => exact .ok (n + k) (.cons hl hls)

/-- **One tag without code** treats lines alike that differ only in code. -/
theorem sameClaims_claim {ls ls' : List Line}
    (h : List.Forall₂ (Line.SameButCode (tag :: tags)) ls ls') :
    SameClaims tags (claim tag false ls) (claim tag false ls') := by
  induction h with
  | nil => exact .ok 0 .nil
  | @cons l l' rest rest' hl _ ih =>
    cases hl with
    | same =>
      cases l with
      | settled s => exact ih.cons (.same _) 0
      | pending p d =>
        rw [claim, claim]
        split
        · split
          · exact .error _
          · exact ih.cons (.same _) 1
        · exact ih.cons (.same _) 0
    | @code p q d payload ends kind tag' active names =>
      have hnames : ({ d with payload } : Directive).names tag.name = d.names tag.name := rfl
      rw [claim, claim, hnames, replacement_of_disabled kind,
        replacement_of_disabled (d := { d with payload }) kind]
      split
      · -- the tag claims both, and nothing is left of the code
        dsimp only
        rw [ends]
        exact ih.cons (.same _) 1
      · next hother =>
        -- the tag that claims them is still to come
        have hlater : tag' ∈ tags := by
          rcases List.mem_cons.mp active with rfl | hmem
          · exact absurd names hother
          · exact hmem
        exact ih.cons (.code payload ends kind hlater names) 0

/-- **All tags without code** make the same of lines that differ only in code that they claim. -/
theorem claimAll_eq_of_sameButCode {ls ls' : List Line}
    (h : List.Forall₂ (Line.SameButCode tags) ls ls') :
    claimAll false tags ls = claimAll false tags ls' := by
  induction tags generalizing ls ls' with
  | nil =>
    have hsame : ls = ls' := by
      refine List.forall₂_eq_eq_eq ▸ h.imp fun l l' hl => ?_
      cases hl with
      | same => rfl
      | code _ _ _ active => cases active
    rw [hsame]
  | cons tag tags ih =>
    have hclaims := sameClaims_claim h
    rw [claimAll, claimAll]
    generalize claim tag false ls = x, claim tag false ls' = x' at hclaims
    cases hclaims with
    | error e => rfl
    | ok n hls =>
      dsimp only
      rw [ih hls]

theorem sameButCode_ofPiece (h : SameButCodeLine tags p q) :
    Line.SameButCode tags (.ofPiece p) (.ofPiece q) := by
  cases h with
  | same => exact .same _
  | code left right ends kind active names =>
    rw [Line.ofPiece, left, Line.ofPiece, right]
    exact .code _ ends kind active names

theorem SameButCodeLine.eq_nil_iff (h : SameButCodeLine tags p q) : p = [] ↔ q = [] := by
  cases h with
  | same => rfl
  | code left right =>
    have hp : p ≠ [] := by
      rintro rfl
      cases left
    have hq : q ≠ [] := by
      rintro rfl
      cases right
    exact iff_of_false hp hq

/-- **Rewriting without code does not depend on the code.** -/
theorem rewrite_eq_of_sameButCode (h : SameButCode tags s s') :
    rewrite s tags false = rewrite s' tags false := by
  have hpieces : List.Forall₂ (SameButCodeLine tags) (pieces s) (pieces s') := by
    rw [pieces_eq_filter, pieces_eq_filter]
    refine List.rel_filter ?_ h
    intro p q hpq
    simpa using not_congr hpq.eq_nil_iff
  have hlines : List.Forall₂ (Line.SameButCode tags) ((pieces s).map Line.ofPiece)
      ((pieces s').map Line.ofPiece) := by
    rw [List.forall₂_map_left_iff, List.forall₂_map_right_iff]
    exact hpieces.imp fun p q => sameButCode_ofPiece
  unfold rewrite
  rw [claimAll_eq_of_sameButCode hlines]

end Rewrite

/-! ## Filtering -/

namespace Options

open Rewrite

/-- The tags that options make active. -/
def activeTags (tree : FileTree) (σ : Store) (o : Options) : List Tag :=
  match (o.resolve tree σ).2 with
  | .ok (some c) => c.tags
  | _ => []

variable {tree : FileTree} {σ : Store} {o : Options}

/-- **Filtering without code.** Options that do not enable code give no configuration that does.
Under them every line of a filtered text is a line of the text, a line without anything in it or a
call of the library, and code that the active tags claim makes no difference. -/
theorem filter_without_code (h : σ.truthy o.execEnabled = false)
    (hn : ∀ tag ∈ o.activeTags tree σ, tag.IsNamed) :
    (∀ c, (o.resolve tree σ).2 = .ok (some c) → c.execEnabled = false) ∧
      (∀ s t, ((Setup.options σ o).filter tree s).2 = .ok t →
        List.Forall₂ Harmless (segments s) (segments t)) ∧
      ∀ s s', SameButCode (o.activeTags tree σ) s s' →
        (Setup.options σ o).filter tree s = (Setup.options σ o).filter tree s' := by
  have hoff : ∀ c, (o.resolve tree σ).2 = .ok (some c) → c.execEnabled = false :=
    fun c hc => (execEnabled_of_resolve hc).trans h
  unfold Setup.filter Setup.resolve
  unfold activeTags at hn ⊢
  dsimp only
  generalize o.resolve tree σ = x at hoff hn ⊢
  obtain ⟨notices, e | _ | c⟩ := x
  · -- the options cannot be resolved, so that no text is filtered
    exact ⟨hoff, nofun, fun _ _ _ => rfl⟩
  · -- there is no configuration, so that a text stays as it is
    refine ⟨hoff, fun s t hs => ?_, fun s s' hs => ?_⟩
    · obtain rfl := Except.ok.inj hs
      exact List.forall₂_same.mpr fun p _ => .kept
    · rw [eq_of_sameButCode_nil hs]
  · have hc : c.execEnabled = false := hoff c rfl
    dsimp only at hn ⊢
    rw [hc]
    refine ⟨hoff, fun s t hs => ?_, fun s s' hs => ?_⟩
    · refine harmless_of_rewrite hn ?_
      generalize rewrite s c.tags false = y at hs ⊢
      obtain ⟨more, e | t'⟩ := y
      · cases hs
      · obtain rfl := Except.ok.inj hs
        rfl
    · rw [rewrite_eq_of_sameButCode hs]

/-- Settings that ask for code get none, and what the code is makes no difference. -/
theorem filter_without_code_settings :
    let o : Options :=
      { empty with settings := some "\x7b\"show\": [\"d\"], \"exec_enabled\": true\x7d".toList }
    let setup : Setup := .options .empty o
    Store.truthy .empty o.execEnabled = false ∧
      (∀ tag ∈ o.activeTags ⟨[], []⟩ .empty, tag.IsNamed) ∧
      SameButCode (o.activeTags ⟨[], []⟩ .empty) "##[d]~ x\nhi".toList "##[d]~ y\nhi".toList ∧
      setup.filter ⟨[], []⟩ "##[d]~ x\nhi".toList =
        setup.filter ⟨[], []⟩ "##[d]~ y\nhi".toList := by
  intro o setup
  have hoff : Store.truthy .empty o.execEnabled = false := rfl
  have hn : ∀ tag ∈ o.activeTags ⟨[], []⟩ .empty, tag.IsNamed := by decide +kernel
  have hnames : ∃ tag ∈ o.activeTags ⟨[], []⟩ .empty, tag.name = ['d'] := by decide +kernel
  have hsame : SameButCode (o.activeTags ⟨[], []⟩ .empty) "##[d]~ x\nhi".toList
      "##[d]~ y\nhi".toList := by
    obtain ⟨tag, hmem, hname⟩ := hnames
    have hfirst : SameButCodeLine (o.activeTags ⟨[], []⟩ .empty) "##[d]~ x\n".toList
        "##[d]~ y\n".toList :=
      .code (d := ⟨[], [['d']], .exec, ['x']⟩) (by decide)
        (by decide : Directive.ofLine? "##[d]~ y".toList = some ⟨[], [['d']], .exec, ['y']⟩)
        (by decide) rfl hmem (by rw [hname]; decide)
    exact .cons hfirst (.cons .same .nil)
  exact ⟨hoff, hn, hsame, (filter_without_code hoff hn).2.2 _ _ hsame⟩

end Options

end Marginalia
