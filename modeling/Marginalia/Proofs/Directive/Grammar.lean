import Mathlib.Logic.ExistsUnique
import Marginalia.Proofs.Directive.Parts

/-!
# The grammar of directives

A line is a directive exactly when it comes apart into an indentation of blanks, a list of names in
brackets and a rest, and it does so in one way only. What the directive is can be read off its
parts, and every directive that can be written down is read back as it was meant.

## Main definitions

* `Directive.Tells`: what the text behind the brackets tells
* `Directive.Parts.Means`: the directive that parts stand for
* `DirectiveKind.sigil`: the character that a kind is written with

## Main results

* `Directive.Parts.eq_of_line_eq`: the parts of a line are unique
* `Directive.exists_ofLine?_iff`: the lines that are directives
* `Directive.ofLine?_concat_lf`: a line feed may end a directive
* `Directive.ofLine?_written`: a directive that is written down is read back
* `Directive.ofLine?_grammar`: all of these together
-/

namespace Marginalia

/-- The character that a kind of directives is written with, right behind the brackets. -/
def DirectiveKind.sigil : DirectiveKind → Char
  | dump => '='
  | exec => '~'
  | message => ' '

namespace Directive

/-- What the text behind the brackets tells: a kind, and the text without what stands for the
kind. -/
inductive Tells : Text → DirectiveKind → Text → Prop
  | dump (r : Text) : Tells ('=' :: r) .dump r
  | exec (r : Text) : Tells ('~' :: r) .exec r
  | message {r : Text} (h : ∀ c ∈ r.head?, c ≠ '=' ∧ c ≠ '~') : Tells r .message r

theorem tells_kindOf (rest : Text) : Tells rest (kindOf rest).1 (kindOf rest).2 := by
  cases rest with
  | nil => exact .message (by simp)
  | cons c r =>
    dsimp only [kindOf]
    split_ifs with hdump hexec
    · exact hdump ▸ .dump r
    · exact hexec ▸ .exec r
    · exact .message (by simpa using ⟨hdump, hexec⟩)

namespace Parts

variable {p q : Parts}

/-- The directive that parts stand for. -/
structure Means (p : Parts) (d : Directive) : Prop where
  /-- Its indentation is the first part. -/
  indent : d.indent = p.indent
  /-- It names the maximal runs between the brackets that hold neither blanks nor commas. -/
  names : ∀ tag, d.names tag = true ↔ Text.IsRun isSeparator tag p.list
  /-- What follows the brackets tells its kind and, blanks at the ends aside, its payload. -/
  payload : ∃ r, Tells p.rest d.kind r ∧ r.TrimsTo isBlank d.payload

theorem means_directive (p : Parts) : p.Means p.directive where
  indent := rfl
  names tag := by
    rw [names, List.contains_iff_mem]
    exact Text.mem_words_iff
  payload := ⟨_, tells_kindOf p.rest, Text.trim_eq_iff.mp rfl⟩

/-- **The parts of a line are unique.** -/
theorem eq_of_line_eq (hp : p.IsProper) (hq : q.IsProper) (h : p.line = q.line) : p = q := by
  -- the indentation is the longest run of blanks at the front
  have hindent : ∀ {r : Parts}, r.IsProper → r.line.takeWhile isBlank = r.indent := fun hr => by
    rw [line, List.takeWhile_append_of_pos hr.indent, marker, List.cons_append,
      List.takeWhile_cons_of_neg (by decide), List.append_nil]
  have hi : p.indent = q.indent := by rw [← hindent hp, ← hindent hq, h]
  have htail : p.list ++ ']' :: p.rest = q.list ++ ']' :: q.rest := by
    rw [line, line, hi] at h
    exact List.append_cancel_left (List.append_cancel_left h)
  -- the list goes up to the first closing bracket
  have hlist : ∀ {r : Parts}, r.IsProper →
      (r.list ++ ']' :: r.rest).takeWhile (· != ']') = r.list := fun hr => by
    rw [List.takeWhile_append_of_pos fun c hc => by simpa using (hr.list c hc).2,
      List.takeWhile_cons_of_neg (by decide), List.append_nil]
  have hl : p.list = q.list := by rw [← hlist hp, ← hlist hq, htail]
  have hr : p.rest = q.rest := by
    rw [hl] at htail
    exact (List.cons.inj (List.append_cancel_left htail)).2
  cases p
  cases q
  simp_all

end Parts

variable {line : Text} {d : Directive}

/-- **The lines that are directives**: those that come apart into proper parts, in one way. -/
theorem exists_ofLine?_iff (h : line.OneLine) :
    (∃ d, ofLine? line = some d) ↔ ∃! p : Parts, p.IsProper ∧ p.line = line := by
  constructor
  · rintro ⟨d, hd⟩
    obtain ⟨p, t, hp, -, ht, rfl, -⟩ := exists_parts_of_ofLine? hd
    rcases endsHere_iff.mp ht with rfl | rfl
    · refine ⟨p, ⟨hp, by simp⟩, ?_⟩
      rintro q ⟨hq, hline⟩
      exact Parts.eq_of_line_eq hq hp (by simpa using hline)
    · exact absurd (h '\n' (by simp)) (by decide)
  · rintro ⟨p, ⟨hp, rfl⟩, -⟩
    exact ⟨_, by simpa using ofLine?_line hp h (t := []) rfl⟩

/-- **A line feed may end a directive**, and no other line end may stand in it. -/
theorem ofLine?_concat_lf (h : ¬ line.OneLine) :
    ofLine? line = some d ↔ ∃ l : Text, l.OneLine ∧ line = l ++ ['\n'] ∧ ofLine? l = some d := by
  constructor
  · intro hd
    obtain ⟨p, t, hp, hone, ht, rfl, rfl⟩ := exists_parts_of_ofLine? hd
    rcases endsHere_iff.mp ht with rfl | rfl
    · exact absurd (by simpa using hone) h
    · exact ⟨p.line, hone, rfl, by simpa using ofLine?_line hp hone (t := []) rfl⟩
  · rintro ⟨l, hone, rfl, hd⟩
    obtain ⟨p, t, hp, hline, ht, rfl, rfl⟩ := exists_parts_of_ofLine? hd
    rcases endsHere_iff.mp ht with rfl | rfl
    · rw [List.append_nil]
      exact ofLine?_line hp hline (by decide)
    · exact absurd (hone '\n' (by simp)) (by decide)

theorem kindOf_sigil {payload : Text} (h : payload.IsTrimmed isBlank) (kind : DirectiveKind) :
    (kindOf (kind.sigil :: payload)).1 = kind ∧
      (kindOf (kind.sigil :: payload)).2.strip = payload := by
  cases kind with
  | dump => exact ⟨rfl, h.trim_eq⟩
  | exec => exact ⟨rfl, h.trim_eq⟩
  | message =>
    refine ⟨rfl, Text.trim_eq_iff.mpr ⟨⟨[' '], [], ?_, by decide, by simp⟩, h⟩⟩
    simp [kindOf, DirectiveKind.sigil]

/-- **A directive that is written down is read back.** -/
theorem ofLine?_written {indent list payload : Text} {names : List Text} (kind : DirectiveKind)
    (hi : ∀ c ∈ indent, isInlineBlank c = true) (hl : Text.Separated isSeparator names list)
    (hn : ∀ name ∈ names, ∀ c ∈ name, c ≠ '[' ∧ c ≠ ']') (hone : list.OneLine)
    (hp : payload.IsTrimmed isBlank) (hpone : payload.OneLine) :
    ofLine? (Parts.line ⟨indent, list, kind.sigil :: payload⟩) =
      some ⟨indent, names, kind, payload⟩ := by
  have hproper : Parts.IsProper ⟨indent, list, kind.sigil :: payload⟩ := by
    refine ⟨fun c hc => isBlank_of_isInlineBlank (hi c hc), fun c hc => ?_, ?_⟩
    · rcases hl.mem_cases hc with hsep | ⟨name, hname, hc⟩
      · constructor <;> rintro rfl <;> exact absurd hsep (by decide)
      · exact hn name hname c hc
    · -- a list of separators only would have no names
      have hne : ¬ ∀ c ∈ list, isSeparator c = true := by
        rw [← Text.words_eq_nil_iff, hl.words_eq]
        exact hl.ne_nil
      simpa using hne
  have hline : (Parts.line ⟨indent, list, kind.sigil :: payload⟩).OneLine := by
    refine Parts.oneLine_line_iff.mpr ⟨fun c hc => isLineEnd_of_isInlineBlank (hi c hc), hone,
      List.forall_mem_cons.mpr ⟨?_, hpone⟩⟩
    cases kind <;> decide
  obtain ⟨hkind, hpayload⟩ := kindOf_sigil hp kind
  have h := ofLine?_line hproper hline (t := []) rfl
  rw [List.append_nil] at h
  rw [h, Parts.directive, hkind, hpayload, tagsOf, hl.words_eq]

/-- **The grammar of directives.** A line without line ends is a directive exactly when it comes
apart into proper parts, which it does in one way only, and the directive is what the parts stand
for. Any other line is a directive exactly when it is one without the line feed at its end. A
directive that is written down with names in any order, any separators between them and a trimmed
payload is read back. -/
theorem ofLine?_grammar :
    (∀ line : Text, line.OneLine →
      ((∃ d, ofLine? line = some d) ↔ ∃! p : Parts, p.IsProper ∧ p.line = line) ∧
        ∀ p : Parts, p.IsProper → p.line = line → ∃ d, ofLine? line = some d ∧ p.Means d) ∧
      (∀ (line : Text) (d : Directive), ¬ line.OneLine →
        (ofLine? line = some d ↔
          ∃ l : Text, l.OneLine ∧ line = l ++ ['\n'] ∧ ofLine? l = some d)) ∧
      ∀ (indent list payload : Text) (names : List Text) (kind : DirectiveKind),
        (∀ c ∈ indent, isInlineBlank c = true) → Text.Separated isSeparator names list →
        (∀ name ∈ names, ∀ c ∈ name, c ≠ '[' ∧ c ≠ ']') → list.OneLine →
        payload.IsTrimmed isBlank → payload.OneLine →
        ofLine? (Parts.line ⟨indent, list, kind.sigil :: payload⟩) =
          some ⟨indent, names, kind, payload⟩ := by
  refine ⟨fun line hone => ⟨exists_ofLine?_iff hone, ?_⟩, fun line d => ofLine?_concat_lf,
    fun indent list payload names kind hi hl hn hone hp hpone =>
      ofLine?_written kind hi hl hn hone hp hpone⟩
  rintro p hp rfl
  have h := ofLine?_line hp hone (t := []) rfl
  rw [List.append_nil] at h
  exact ⟨p.directive, h, p.means_directive⟩

/-- A dump under three names, one of them twice, with and without a line feed. -/
theorem ofLine?_grammar_dump :
    let list : Text := "b,\ta b".toList
    let payload : Text := "= x]".toList
    let line := Parts.line ⟨"  ".toList, list, DirectiveKind.sigil .dump :: payload⟩
    let d : Directive := ⟨"  ".toList, ["b".toList, "a".toList, "b".toList], .dump, payload⟩
    Text.Separated isSeparator d.tags list ∧ payload.IsTrimmed isBlank ∧ line.OneLine ∧
      ofLine? line = some d ∧ (∃! p : Parts, p.IsProper ∧ p.line = line) ∧
      ofLine? (line ++ ['\n']) = some d := by
  intro list payload line d
  have hlist : Text.Separated isSeparator d.tags list :=
    .cons ",\t".toList (by decide) (by decide) (by decide) (by decide)
      (.cons " ".toList (by decide) (by decide) (by decide) (by decide)
        (.single (by decide) (by decide)))
  have hpayload : payload.IsTrimmed isBlank := by
    constructor
    · rintro c ⟨⟩
      decide
    · rintro c ⟨⟩
      decide
  have hone : ∀ c ∈ line, isLineEnd c = false := by decide
  have hmany : ¬ Text.OneLine (line ++ ['\n']) := fun h => absurd (h '\n' (by simp)) (by decide)
  have hd : ofLine? line = some d := ofLine?_grammar.2.2 _ _ _ _ .dump (by decide) hlist (by decide)
    (by decide : ∀ c ∈ list, isLineEnd c = false) hpayload
    (by decide : ∀ c ∈ payload, isLineEnd c = false)
  exact ⟨hlist, hpayload, hone, hd, (ofLine?_grammar.1 line hone).1.mp ⟨d, hd⟩,
    (ofLine?_grammar.2.1 _ d hmany).mpr ⟨line, hone, rfl, hd⟩⟩

end Directive

end Marginalia
