import Mathlib.Logic.Relation
import Marginalia.Invocation
import Marginalia.Proofs.Directive.Dump
import Marginalia.Proofs.Directive.Parts

/-!
# Signs of containers

A container in a dump may be marked by signs in front of its name. Signs in front of a token that
carries no label, and signs between a label and its expression, mean nothing: the payload keeps its
entries, and the directive is replaced by the same call. A label is looked for before signs are
dropped, though, so that signs in front of a label hide it, and label and expression together become
the expression that is shown.

## Main definitions

* `DumpEntry.IsToken`: a token of a payload
* `DumpEntry.Marks`: a payload with more signs in one place where they mean nothing

## Main results

* `DumpEntry.IsToken.ofPayload_eq`: the entries before, of and after a token
* `DumpEntry.Marks.ofPayload_eq`: signs mean nothing
* `DumpEntry.ofToken?_hidden`: signs that hide a label
* `DumpEntry.ofPayload_sigils`: where signs mean nothing and where they do
-/

namespace Marginalia

open Relation (ReflTransGen)

namespace DumpEntry

variable {before token after sigils rest s s' : Text} {l : DumpLabel}

/-! ## Tokens in a payload -/

/-- A token of a payload: a run without blanks and commas between two texts that do not go on with
it. -/
structure IsToken (before token after : Text) : Prop where
  ne_nil : token ≠ []
  isSeparator_of_mem : ∀ c ∈ token, Directive.isSeparator c = false
  before : ∀ c ∈ before.getLast?, Directive.isSeparator c = true
  after : ∀ c ∈ after.head?, Directive.isSeparator c = true

/-- **The entries before, of and after a token** are those of the payload. -/
theorem IsToken.ofPayload_eq (h : IsToken before token after) :
    ofPayload (before ++ token ++ after) =
      ofPayload before ++ ((ofToken? token).toList ++ ofPayload after) := by
  unfold ofPayload
  rw [Text.words_append_of_bounded h.ne_nil h.isSeparator_of_mem h.before h.after,
    List.filterMap_append, List.filterMap_cons]
  cases ofToken? token <;> rfl

theorem isSeparator_of_isSigil {c : Char} (h : isSigil c = true) :
    Directive.isSeparator c = false := by
  simp only [isSigil, Bool.or_eq_true, beq_iff_eq] at h
  rcases h with rfl | rfl <;> decide

/-- Signs in front of a token are part of it. -/
theorem IsToken.marked (h : IsToken before token after) (hs : ∀ c ∈ sigils, isSigil c = true) :
    IsToken before (sigils ++ token) after where
  ne_nil := List.append_ne_nil_of_right_ne_nil _ h.ne_nil
  isSeparator_of_mem := List.forall_mem_append.mpr
    ⟨fun c hc => isSeparator_of_isSigil (hs c hc), h.isSeparator_of_mem⟩
  before := h.before
  after := h.after

/-- Signs behind a label are part of the token. -/
theorem IsToken.marked_label (h : IsToken before (l.text ++ rest) after)
    (hs : ∀ c ∈ sigils, isSigil c = true) :
    IsToken before (l.text ++ (sigils ++ rest)) after where
  ne_nil := by
    have hl : l.text ≠ [] := List.append_ne_nil_of_right_ne_nil _ (List.cons_ne_nil _ _)
    exact List.append_ne_nil_of_left_ne_nil hl _
  isSeparator_of_mem := by
    obtain ⟨hlabel, hrest⟩ := List.forall_mem_append.mp h.isSeparator_of_mem
    refine List.forall_mem_append.mpr ⟨hlabel, List.forall_mem_append.mpr ⟨?_, hrest⟩⟩
    exact fun c hc => isSeparator_of_isSigil (hs c hc)
  before := h.before
  after := h.after

/-! ## Entries of marked tokens -/

/-- Signs in front of signs and an expression are dropped with these. -/
theorem named?_append (hs : ∀ c ∈ sigils, isSigil c = true) (name? : Option Text) (rest : Text) :
    named? name? (sigils ++ rest) = named? name? rest := by
  unfold named?
  rw [List.dropWhile_append_of_pos hs]

/-- Signs in front of a token without a label mean nothing. -/
theorem ofToken?_marked (hs : ∀ c ∈ sigils, isSigil c = true) (hl : label? token = none) :
    ofToken? (sigils ++ token) = ofToken? token := by
  have hmarked : label? (sigils ++ token) = none := by
    cases sigils with
    | nil => exact hl
    | cons c sigils => exact label?_of_isSigil (hs c List.mem_cons_self) _
  unfold ofToken?
  rw [hmarked, hl]
  exact named?_append hs none token

theorem ofToken?_labelled (l : DumpLabel) (rest : Text) :
    ofToken? (l.text ++ rest) = named? (some l.name) rest := by
  have hl : label? (l.text ++ rest) = some (l.name, rest) :=
    label?_eq_some_iff.mpr ⟨l, rfl, rfl⟩
  rw [ofToken?, hl]

/-- Signs behind a label mean nothing. -/
theorem ofToken?_marked_label (hs : ∀ c ∈ sigils, isSigil c = true) (l : DumpLabel)
    (rest : Text) : ofToken? (l.text ++ (sigils ++ rest)) = ofToken? (l.text ++ rest) := by
  rw [ofToken?_labelled, ofToken?_labelled, named?_append hs]

theorem isSigil_of_isWord {c : Char} (h : isWord c = true) : isSigil c = false := by
  cases hs : isSigil c with
  | false => rfl
  | true =>
    simp only [isSigil, Bool.or_eq_true, beq_iff_eq] at hs
    rcases hs with rfl | rfl <;> exact absurd h (by decide)

/-- **Signs that hide a label**: the label and what follows it are shown under their own name. -/
theorem ofToken?_hidden (hs : ∀ c ∈ sigils, isSigil c = true) (hne : sigils ≠ []) (l : DumpLabel)
    (rest : Text) :
    ofToken? (sigils ++ (l.text ++ rest)) = some ⟨l.text ++ rest, l.text ++ rest⟩ := by
  obtain ⟨c, sigils, rfl⟩ := List.exists_cons_of_ne_nil hne
  have hlabel : label? (c :: sigils ++ (l.text ++ rest)) = none :=
    label?_of_isSigil (hs c List.mem_cons_self) _
  obtain ⟨d, name, hname⟩ := List.exists_cons_of_ne_nil l.name_ne_nil
  have hhead : ∀ e ∈ (l.text ++ rest).head?, isSigil e = false := by
    intro e he
    rw [DumpLabel.text, hname] at he
    obtain rfl : d = e := Option.some.inj he
    exact isSigil_of_isWord (l.isWord_of_mem d (hname ▸ List.mem_cons_self))
  rw [ofToken?, hlabel]
  unfold named?
  rw [dropWhile_isSigil hs hhead, if_neg (by simp [DumpLabel.text])]
  rfl

/-- A label that is read is not part of the name. -/
theorem ofToken?_labelled_ne (l : DumpLabel) (rest : Text) :
    ofToken? (l.text ++ rest) ≠ some ⟨l.text ++ rest, l.text ++ rest⟩ := by
  intro h
  rw [ofToken?_labelled, named?] at h
  split at h
  · cases h
  · have hname : l.name = l.text ++ rest := congrArg DumpEntry.name (Option.some.inj h)
    have hlength := congrArg List.length hname
    simp only [DumpLabel.text, List.length_append, List.length_singleton] at hlength
    omega

/-! ## Entries of marked payloads -/

/-- The second payload is the first one with signs where they mean nothing: in front of a token that
carries no label, or in front of the expression behind a label. -/
inductive Marks : Text → Text → Prop
  | front {before token after sigils : Text} (h : IsToken before token after)
    (hs : ∀ c ∈ sigils, isSigil c = true)
    (hbare : ∀ (l : DumpLabel) (rest : Text), token ≠ l.text ++ rest) :
    Marks (before ++ token ++ after) (before ++ (sigils ++ token) ++ after)
  | inner {before after sigils : Text} (l : DumpLabel) {rest : Text}
    (h : IsToken before (l.text ++ rest) after) (hs : ∀ c ∈ sigils, isSigil c = true) :
    Marks (before ++ (l.text ++ rest) ++ after) (before ++ (l.text ++ (sigils ++ rest)) ++ after)

/-- **Signs mean nothing** where no label is hidden. -/
theorem Marks.ofPayload_eq (h : Marks s s') : ofPayload s' = ofPayload s := by
  cases h with
  | front h hs hbare =>
    rw [(h.marked hs).ofPayload_eq, h.ofPayload_eq,
      ofToken?_marked hs (label?_eq_none_iff.mpr hbare)]
  | inner l h hs =>
    rw [(h.marked_label hs).ofPayload_eq, h.ofPayload_eq, ofToken?_marked_label hs]

/-- Signs end no line. -/
theorem Marks.oneLine (h : Marks s s') (hs : s.OneLine) : s'.OneLine := by
  have hsigils : ∀ {t : Text}, (∀ c ∈ t, isSigil c = true) → t.OneLine := by
    intro t ht c hc
    have hsep := isSeparator_of_isSigil (ht c hc)
    cases hl : isLineEnd c with
    | false => rfl
    | true => simp [Directive.isSeparator, isBlank_of_isLineEnd hl] at hsep
  unfold Text.OneLine at hs hsigils ⊢
  cases h with
  | front _ hmarks _ =>
    simp only [List.forall_mem_append] at hs ⊢
    exact ⟨⟨hs.1.1, hsigils hmarks, hs.1.2⟩, hs.2⟩
  | inner _ _ hmarks =>
    simp only [List.forall_mem_append] at hs ⊢
    exact ⟨⟨hs.1.1, hs.1.2.1, hsigils hmarks, hs.1.2.2⟩, hs.2⟩

/-- Signs mean nothing in any number of places. -/
theorem ofPayload_of_reflTransGen (h : ReflTransGen Marks s s') : ofPayload s' = ofPayload s := by
  induction h with
  | refl => rfl
  | tail _ hmarks ih => rw [hmarks.ofPayload_eq, ih]

/-- Blanks around a payload do not matter. -/
theorem ofPayload_strip (s : Text) : ofPayload s.strip = ofPayload s := by
  obtain ⟨⟨a, b, hs, ha, hb⟩, -⟩ := Text.trim_eq_iff.mp (rfl : s.strip = s.strip)
  have hsep : ∀ {t : Text}, (∀ c ∈ t, isBlank c = true) →
      ∀ c ∈ t, Directive.isSeparator c = true := fun ht c hc => by
    simp [Directive.isSeparator, ht c hc]
  have hwords : s.words Directive.isSeparator = s.strip.words Directive.isSeparator := calc
    s.words Directive.isSeparator = (a ++ s.strip ++ b).words Directive.isSeparator :=
      congrArg _ hs
    _ = s.strip.words Directive.isSeparator := by
      rw [Text.words_append_trail (hsep hb), Text.words_append_of_forall (hsep ha)]
  rw [ofPayload, ofPayload, hwords]

end DumpEntry

/-- Dumps with the same entries are replaced by the same call. -/
theorem Directive.replacement_dump {indent : Text} {tags tags' : List Text} {s s' : Text}
    (h : DumpEntry.ofPayload s' = DumpEntry.ofPayload s) (tag : Tag) (execEnabled : Bool) :
    replacement ⟨indent, tags', .dump, s'.strip⟩ tag execEnabled =
      replacement ⟨indent, tags, .dump, s.strip⟩ tag execEnabled := by
  have hcall : DumpEntry.ofPayload s'.strip = DumpEntry.ofPayload s.strip := by
    rw [DumpEntry.ofPayload_strip, DumpEntry.ofPayload_strip, h]
  simp only [replacement, invocation, call, hcall]

namespace DumpEntry

/-- **Signs of containers mean nothing where they hide no label.** However many of them stand in
front of tokens without a label and of expressions behind a label, a payload has the same entries,
and the line it stands on is replaced by the same call. Signs in front of a label always change the
entries. -/
theorem ofPayload_sigils (s : Text) :
    (∀ s' : Text, ReflTransGen Marks s s' → ofPayload s' = ofPayload s ∧
      ∀ indent list : Text, Directive.Parts.IsProper ⟨indent, list, '=' :: s⟩ →
        (Directive.Parts.line ⟨indent, list, '=' :: s⟩).OneLine →
        ∃ d d', Directive.ofLine? (Directive.Parts.line ⟨indent, list, '=' :: s⟩) = some d ∧
          Directive.ofLine? (Directive.Parts.line ⟨indent, list, '=' :: s'⟩) = some d' ∧
          d'.tags = d.tags ∧
          ∀ tag execEnabled, d'.replacement tag execEnabled = d.replacement tag execEnabled) ∧
    ∀ (before after sigils rest : Text) (l : DumpLabel), s = before ++ (l.text ++ rest) ++ after →
      IsToken before (l.text ++ rest) after → (∀ c ∈ sigils, isSigil c = true) → sigils ≠ [] →
      ofPayload (before ++ (sigils ++ (l.text ++ rest)) ++ after) ≠ ofPayload s := by
  constructor
  · intro s' h
    have hentries := ofPayload_of_reflTransGen h
    refine ⟨hentries, fun indent list hp hone => ?_⟩
    obtain ⟨hindent, hlist, hrest⟩ := Directive.Parts.oneLine_line_iff.mp hone
    obtain ⟨hsign, hpayload⟩ := List.forall_mem_cons.mp hrest
    have hpayload' : s'.OneLine := by
      clear hentries
      induction h with
      | refl => exact hpayload
      | tail _ hmarks ih => exact hmarks.oneLine ih
    have hone' : (Directive.Parts.line ⟨indent, list, '=' :: s'⟩).OneLine :=
      Directive.Parts.oneLine_line_iff.mpr
        ⟨hindent, hlist, List.forall_mem_cons.mpr ⟨hsign, hpayload'⟩⟩
    have hp' : Directive.Parts.IsProper ⟨indent, list, '=' :: s'⟩ := ⟨hp.indent, hp.list, hp.names⟩
    have hd := Directive.ofLine?_line hp hone (t := []) rfl
    have hd' := Directive.ofLine?_line hp' hone' (t := []) rfl
    rw [List.append_nil] at hd hd'
    exact ⟨_, _, hd, hd', rfl, Directive.replacement_dump hentries⟩
  · rintro before after sigils rest l rfl h hs hne heq
    rw [(h.marked hs).ofPayload_eq, h.ofPayload_eq, ofToken?_hidden hs hne] at heq
    -- the entries around the token are the same, so the token would have to keep its own
    have htoken := List.append_cancel_right (List.append_cancel_left heq)
    cases ht : ofToken? (l.text ++ rest) with
    | none => simp [ht] at htoken
    | some e =>
      rw [ht] at htoken
      obtain rfl := List.singleton_inj.mp htoken
      exact ofToken?_labelled_ne l rest ht

/-- Signs in front of a name and behind a label, in a directive; and signs in front of the label. -/
theorem ofPayload_sigils_sample :
    let s : Text := "a, n:x.y".toList
    let s' : Text := "%a, n:@@x.y".toList
    let line (payload : Text) : Text :=
      Directive.Parts.line ⟨"  ".toList, "t".toList, '=' :: payload⟩
    ReflTransGen Marks s s' ∧ ofPayload s' = ofPayload s ∧
      (∃ d d', Directive.ofLine? (line s) = some d ∧ Directive.ofLine? (line s') = some d' ∧
        d'.tags = d.tags ∧
        ∀ tag execEnabled, d'.replacement tag execEnabled = d.replacement tag execEnabled) ∧
      ofPayload "a, @n:x.y".toList ≠ ofPayload s := by
  intro s s' line
  let n : DumpLabel := ⟨"n".toList, ':', by decide, by decide, by decide⟩
  have hname : IsToken [] "a".toList ", n:x.y".toList :=
    ⟨by decide, by decide, nofun, by rintro c ⟨⟩; decide⟩
  have hbare : ∀ (l : DumpLabel) (rest : Text), "a".toList ≠ l.text ++ rest :=
    label?_eq_none_iff.mp (by decide)
  have hlabelled : ∀ {before : Text}, (∀ c ∈ before.getLast?, Directive.isSeparator c = true) →
      IsToken before (n.text ++ "x.y".toList) [] := fun hb => ⟨by decide, by decide, hb, nofun⟩
  -- first the sign in front of the name, then those behind the label
  have hfront : Marks ([] ++ "a".toList ++ ", n:x.y".toList)
      ([] ++ ("%".toList ++ "a".toList) ++ ", n:x.y".toList) := .front hname (by decide) hbare
  have hinner : Marks ("%a, ".toList ++ (n.text ++ "x.y".toList) ++ [])
      ("%a, ".toList ++ (n.text ++ ("@@".toList ++ "x.y".toList)) ++ []) :=
    .inner n (hlabelled (by rintro c ⟨⟩; decide)) (by decide)
  have hmarks : ReflTransGen Marks s s' := (ReflTransGen.single hfront).tail hinner
  have hproper : Directive.Parts.IsProper ⟨"  ".toList, "t".toList, '=' :: s⟩ :=
    ⟨by decide, by decide, 't', by decide, by decide⟩
  have hone : ∀ c ∈ line s, isLineEnd c = false := by decide
  obtain ⟨hentries, hline⟩ := (ofPayload_sigils s).1 s' hmarks
  refine ⟨hmarks, hentries, hline _ _ hproper hone, ?_⟩
  exact (ofPayload_sigils s).2 "a, ".toList [] "@".toList "x.y".toList n rfl
    (hlabelled (by rintro c ⟨⟩; decide)) (by decide) (by decide)

/-- **A sign in front of a label changes what is shown**: the label is no longer read, and the line
is replaced by a call with an expression that is none. -/
theorem ofPayload_sigils_hidden :
    let tag : Tag := ⟨"t".toList, 0, .none, .none⟩
    let shown (s : Text) := ((Directive.ofLine? s).map fun d => (d.replacement tag false).toOption)
    ofPayload "b:x".toList = [⟨"b".toList, "x".toList⟩] ∧
      ofPayload "@b:x".toList = [⟨"b:x".toList, "b:x".toList⟩] ∧
      shown "##[t]= b:x".toList = some (some
        "__import__('debugcomments').debug_dump(None, None, \x7b'b': x\x7d)".toList) ∧
      shown "##[t]= @b:x".toList = some (some
        "__import__('debugcomments').debug_dump(None, None, \x7b'b:x': b:x\x7d)".toList) := by
  decide +kernel

end DumpEntry

end Marginalia
