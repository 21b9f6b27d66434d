import Marginalia.Program.Reader
import Marginalia.Proofs.Remark.Basic
import Marginalia.Proofs.Rewrite.LineByLine
import Marginalia.Proofs.Text.RawLines

/-!
# Where remarks stand

A text with directives is a program of its own once every directive that makes a remark holds the
place of a statement. The remark is known by the number of its line, which is the same in the text,
in the program of its own lines and in the rewritten text.

## Main definitions

* `Rewrite.claimed?`: the directive of a segment and the tag that claims it
* `Rewrite.rendered`: a segment with something in the place of a claimed directive
* `Remark.held`: the program of the own lines of a text
* `Remark.at?`: the remark on a line of a text

## Main results

* `Rewrite.rewrite_eq_rendered`: a rewritten text is a rendering of its segments
* `Rewrite.rawLines_rendered`: the lines of a segment with a claimed directive
-/

namespace Marginalia

namespace Text

/-- The number of line ends in a text. -/
def lineEnds (p : Text) : Nat := p.unixLines.count '\n'

theorem lineEnds_snoc (l : Text) : 0 < lineEnds (l ++ ['\n']) := by
  obtain ⟨u, hu⟩ := exists_unixLines_lf l
  rw [lineEnds, hu, List.count_append, List.count_cons_self]
  omega

end Text

namespace Rewrite

variable {tags : List Tag} {execEnabled : Bool} {p s t : Text} {d : Directive} {tag : Tag}

/-- The directive of a segment and the tag that claims it. -/
def claimed? (tags : List Tag) (p : Text) : Option (Directive × Tag) :=
  (Directive.ofLine? (body p)).bind fun d => (tags.find? fun tag => d.names tag.name).map (d, ·)

theorem ofLine?_of_claimed? (h : claimed? tags p = some (d, tag)) :
    Directive.ofLine? (body p) = some d := by
  obtain ⟨d', hd, h⟩ := Option.bind_eq_some_iff.mp h
  obtain ⟨tag', -, h⟩ := Option.map_eq_some_iff.mp h
  obtain ⟨rfl, -⟩ := Prod.mk.inj h
  exact hd

theorem find?_of_claimed? (h : claimed? tags p = some (d, tag)) :
    tags.find? (fun tag => d.names tag.name) = some tag := by
  obtain ⟨d', -, h⟩ := Option.bind_eq_some_iff.mp h
  obtain ⟨tag', ht, h⟩ := Option.map_eq_some_iff.mp h
  obtain ⟨rfl, rfl⟩ := Prod.mk.inj h
  exact ht

/-- A segment with something in the place of a claimed directive. -/
def rendered (f : Text → Directive → Tag → Text) (tags : List Tag) (p : Text) : Text :=
  match claimed? tags p with
  | none => p
  | some (d, tag) => f p d tag ++ terminator p

theorem rendered_of_claimed? (f : Text → Directive → Tag → Text)
    (h : claimed? tags p = some (d, tag)) : rendered f tags p = f p d tag ++ terminator p := by
  rw [rendered, h]

theorem rendered_of_none (f : Text → Directive → Tag → Text) (h : claimed? tags p = none) :
    rendered f tags p = p := by
  rw [rendered, h]

/-- The directive itself. -/
def ownBody (p : Text) (_ : Directive) (_ : Tag) : Text := body p

@[simp] theorem rendered_ownBody (tags : List Tag) (p : Text) : rendered ownBody tags p = p := by
  cases h : claimed? tags p with
  | none => exact rendered_of_none _ h
  | some c => rw [rendered_of_claimed? _ h, ownBody, body_append_terminator]

/-- What stands in the place of code. Where code is run, code that is itself a directive is not. -/
def codeBody (execEnabled : Bool) (d : Directive) : Text :=
  if execEnabled && (Directive.ofLine? d.payload).isNone then d.indent ++ d.payload else []

theorem codeBody_false (d : Directive) : codeBody false d = [] := rfl

/-- What stands in the place of a directive. -/
def callBody (execEnabled : Bool) (_ : Text) (d : Directive) (tag : Tag) : Text :=
  if d.kind = .exec then codeBody execEnabled d else d.indent ++ (d.invocation tag).line

theorem claimed?_eq_some (hd : Directive.ofLine? (body p) = some d)
    (hf : tags.find? (fun tag => d.names tag.name) = some tag) :
    claimed? tags p = some (d, tag) := by
  rw [claimed?, hd, Option.bind_some, hf]
  rfl

theorem claimed?_eq_none (h : claimant? tags p = none) : claimed? tags p = none := by
  unfold claimed?
  cases hd : Directive.ofLine? (body p) with
  | none => rfl
  | some d =>
    rw [Option.bind_some, (claimant?_eq_none_iff hd).mp h]
    rfl

/-- What a directive is replaced with stands in its place. -/
theorem eq_callBody_of_replacement (ht : tag.IsNamed) {r : Text} (p : Text)
    (h : d.replacement tag execEnabled = .ok r) :
    r = callBody execEnabled p d tag ∧
      (d.kind ≠ .exec → ¬ (0 < tag.depth ∧ Digits.tooLong tag.depth = true)) := by
  by_cases hk : d.kind = .exec
  · rw [Directive.replacement, hk] at h
    rw [callBody, if_pos hk, codeBody]
    refine ⟨?_, fun hk' => absurd hk hk'⟩
    dsimp only at h
    split at h
    · next hcode =>
      rw [if_pos hcode]
      exact (Except.ok.inj h).symm
    · next hcode =>
      rw [if_neg hcode]
      exact (Except.ok.inj h).symm
  · rw [Directive.replacement_eq ht hk] at h
    rw [callBody, if_neg hk]
    split at h
    · cases h
    · next hdepth => exact ⟨(Except.ok.inj h).symm, fun _ => hdepth⟩

/-- **What the tags make of a segment.** -/
theorem pieceAfter_eq_rendered (ht : ∀ tag ∈ tags, tag.IsNamed) {q : Text}
    (h : pieceAfter tags execEnabled p = .ok q) :
    q = rendered (callBody execEnabled) tags p ∧
      ∀ d tag, claimed? tags p = some (d, tag) → d.kind ≠ .exec →
        ¬ (0 < tag.depth ∧ Digits.tooLong tag.depth = true) := by
  rcases pieceAfter_cases h with ⟨rfl, hnone⟩ | ⟨d, tag, r, hd, hf, hr, rfl⟩
  · have hc := claimed?_eq_none hnone
    exact ⟨(rendered_of_none _ hc).symm, by simp [hc]⟩
  · have hc := claimed?_eq_some hd hf
    obtain ⟨rfl, hdepth⟩ :=
      eq_callBody_of_replacement (ht tag (List.mem_of_find?_eq_some hf)) p hr
    rw [rendered_of_claimed? _ hc]
    refine ⟨rfl, fun d' tag' hc' hk => ?_⟩
    cases hc.symm.trans hc'
    exact hdepth hk

/-- **A rewritten text is a rendering of its segments.** -/
theorem rewrite_eq_rendered (ht : ∀ tag ∈ tags, tag.IsNamed)
    (h : (rewrite s tags execEnabled).2 = .ok t) :
    t = ((segments s).map (rendered (callBody execEnabled) tags)).flatten ∧
      ∀ p ∈ segments s, ∀ d tag, claimed? tags p = some (d, tag) → d.kind ≠ .exec →
        ¬ (0 < tag.depth ∧ Digits.tooLong tag.depth = true) := by
  have hall := segments_of_rewrite ht h
  rw [← flatten_segments t]
  generalize segments s = ps, segments t = qs at hall ⊢
  induction hall with
  | nil => exact ⟨rfl, by simp⟩
  | cons hpq _ ih =>
    obtain ⟨rfl, hdepth⟩ := pieceAfter_eq_rendered ht hpq
    obtain ⟨hrest, hdepths⟩ := ih
    exact ⟨by rw [List.map_cons, List.flatten_cons, hrest, List.flatten_cons],
      List.forall_mem_cons.mpr ⟨hdepth, hdepths⟩⟩

/-! ## Lines of segments -/

/-- **The lines of a segment with a claimed directive**: what stands in its place, and one for every
line end. -/
theorem rawLines_rendered {a : Text} (ha : a.OneLine)
    (h : Directive.ofLine? (body p) = some d) :
    Text.rawLines (a ++ terminator p) = a :: List.replicate p.lineEnds [] := by
  have hends : ∀ c ∈ terminator p, isLineEnd c = true := fun c => isLineEnd_of_mem_terminator
  have hbody : (body p).OneLine := Directive.oneLine_body h
  rw [Text.rawLines_body ha hends]
  have hcount : p.lineEnds = (Text.unixLines (terminator p)).length := by
    have hp : p.unixLines = body p ++ Text.unixLines (terminator p) := by
      rw [← Text.unixLines_append_of_oneLine hbody, body_append_terminator]
    rw [Text.lineEnds, hp, List.count_append, List.count_eq_zero.mpr hbody.notMem_lf,
      Text.unixLines_lineEnds hends, List.count_replicate_self, List.length_replicate, Nat.zero_add]
  rw [hcount]

end Rewrite

namespace Remark

open Rewrite

/-- What stands in the place of a directive in the program of the own lines of a text: a statement
that does nothing. -/
def placeBody (_ : Text) (d : Directive) (_ : Tag) : Text :=
  if d.kind = .exec then [] else d.indent ++ Program.passWord

/-- The program of the own lines of a text. Every directive that a tag claims holds the place of a
statement, but for code, which is not run. -/
def held (tags : List Tag) (s : Text) : Text := ((segments s).map (rendered placeBody tags)).flatten

/-- The remark that a segment makes. -/
def on? (tags : List Tag) (p : Text) : Option Remark :=
  (claimed? tags p).bind fun (d, tag) => ofDirective? d tag

/-- The remarks on the lines of some segments. -/
def perLine (tags : List Tag) : List Text → List (Option Remark)
  | [] => []
  | p :: rest => on? tags p :: List.replicate (p.lineEnds - 1) none ++ perLine tags rest

/-- The remark on a line of a text. Lines count from one. -/
def at? (tags : List Tag) (s : Text) (number : Nat) : Option Remark :=
  ((none :: perLine tags (segments s))[number]?).join

theorem mem_perLine {tags : List Tag} {ss : List Text} {r : Remark}
    (h : some r ∈ perLine tags ss) : ∃ p ∈ ss, on? tags p = some r := by
  induction ss with
  | nil => cases h
  | cons p rest ih =>
    rw [perLine, List.cons_append] at h
    rcases List.mem_cons.mp h with h | h
    · exact ⟨p, List.mem_cons_self, h.symm⟩
    rcases List.mem_append.mp h with h | h
    · cases List.eq_of_mem_replicate h
    · obtain ⟨q, hq, hr⟩ := ih h
      exact ⟨q, List.mem_cons_of_mem _ hq, hr⟩

/-- **A remark comes from a directive** and the tag that claims it. -/
theorem exists_of_at? {tags : List Tag} {s : Text} {n : Nat} {r : Remark}
    (h : at? tags s n = some r) :
    ∃ p ∈ segments s, ∃ d tag, claimed? tags p = some (d, tag) ∧ ofDirective? d tag = some r := by
  have hmem := List.mem_of_getElem? (Option.join_eq_some_iff.mp h)
  rcases List.mem_cons.mp hmem with hnone | hmem
  · cases hnone
  obtain ⟨p, hp, hon⟩ := mem_perLine hmem
  obtain ⟨⟨d, tag⟩, hc, hr⟩ := Option.bind_eq_some_iff.mp hon
  exact ⟨p, hp, d, tag, hc, hr⟩

/-- The message of a remark stands on one line. -/
theorem oneLine_of_at? {tags : List Tag} {s : Text} {n : Nat} {r : Remark}
    (h : at? tags s n = some r) {text : Text} (ht : r.shows = .message text) : text.OneLine := by
  obtain ⟨p, -, d, tag, hc, hr⟩ := exists_of_at? h
  unfold ofDirective? at hr
  split at hr
  · cases hr
    cases ht
    exact Directive.oneLine_payload (ofLine?_of_claimed? hc)
  · obtain ⟨es, -, rfl⟩ := Option.map_eq_some_iff.mp hr
    cases ht
  · cases hr

/-- Every claimed directive makes a remark or is code: the entries of dumps are expressions. -/
def Readable (tags : List Tag) (s : Text) : Prop :=
  ∀ p ∈ segments s, ∀ c ∈ claimed? tags p, c.1.kind = .dump →
    ∀ e ∈ DumpEntry.ofPayload c.1.payload, (Program.expression? e.expression).isSome = true

instance (tags : List Tag) (s : Text) : Decidable (Readable tags s) :=
  inferInstanceAs (Decidable (∀ p ∈ segments s, ∀ c ∈ claimed? tags p, c.1.kind = .dump →
    ∀ e ∈ DumpEntry.ofPayload c.1.payload, (Program.expression? e.expression).isSome = true))

/-- A readable directive that is no code makes a remark. -/
theorem exists_ofDirective? {d : Directive} (tag : Tag) (hk : d.kind ≠ .exec)
    (h : d.kind = .dump → ∀ e ∈ DumpEntry.ofPayload d.payload,
      (Program.expression? e.expression).isSome = true) :
    ∃ r, ofDirective? d tag = some r := by
  unfold ofDirective?
  cases hd : d.kind with
  | message => exact ⟨_, rfl⟩
  | exec => exact absurd hd hk
  | dump =>
    have hall := h hd
    have hread : ∃ es, (DumpEntry.ofPayload d.payload).mapM DumpEntry.read? = some es := by
      generalize DumpEntry.ofPayload d.payload = entries at hall
      induction entries with
      | nil => exact ⟨[], rfl⟩
      | cons e entries ih =>
        obtain ⟨he, hall⟩ := List.forall_mem_cons.mp hall
        obtain ⟨x, hx⟩ := Option.isSome_iff_exists.mp he
        obtain ⟨es, hes⟩ := ih hall
        exact ⟨(e.name, x) :: es, by simp [List.mapM_cons, DumpEntry.read?, hx, hes]⟩
    obtain ⟨es, hes⟩ := hread
    exact ⟨⟨tag, .dump es⟩, by rw [hes]; rfl⟩

end Remark

end Marginalia
