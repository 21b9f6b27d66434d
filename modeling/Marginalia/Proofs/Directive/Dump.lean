import Marginalia.Proofs.Directive.Parts

/-!
# Tokens of a dump

A token of a dump is written as a label that it may have, signs that mark a container, and an
expression. Every word of a payload is such a token, and the entry it makes can be told from its
parts: the label names the expression, which names itself otherwise, and nothing is shown where no
expression is written.

## Main definitions

* `DumpLabel`: a label and the character that ends it
* `DumpToken`: the parts of a token
* `DumpToken.entry?`: the entry that the parts make
* `DumpToken.Writes`: tokens with separators around them

## Main results

* `DumpEntry.label?_eq_some_iff`: what a label is read from
* `DumpEntry.ofToken?_text`: a token is read as the entry of its parts
* `DumpToken.isSeparator_of_mem_text`, `DumpToken.exists_text_eq`: tokens are the words
* `DumpEntry.ofPayload_exact`: a payload has the entries of its tokens, each in good form, piece by
  piece
-/

namespace Marginalia

/-- Word characters are neither blanks nor commas. -/
theorem isSeparator_of_isWord {c : Char} (h : isWord c = true) :
    Directive.isSeparator c = false := by
  have hblank : ∀ n ∈ blankCodes, isWord (Char.ofNat n) = false := by decide +kernel
  cases hsep : Directive.isSeparator c with
  | false => rfl
  | true =>
    simp only [Directive.isSeparator, isBlank, Bool.or_eq_true, List.contains_iff_mem,
      beq_iff_eq] at hsep
    rcases hsep with hb | rfl
    · have hnot := hblank _ hb
      rw [Char.ofNat_toNat, h] at hnot
      cases hnot
    · exact absurd h (by decide)

/-- A label and the character that ends it. -/
structure DumpLabel where
  /-- The label. -/
  name : Text
  /-- What ends it. -/
  mark : Char
  name_ne_nil : name ≠ []
  isWord_of_mem : ∀ c ∈ name, isWord c = true
  endsLabel_mark : DumpEntry.endsLabel mark = true

namespace DumpLabel

/-- The label as it is written. -/
def text (l : DumpLabel) : Text := l.name ++ [l.mark]

/-- What ends a label is no part of one, marks no container and separates nothing. -/
theorem mark_cases (l : DumpLabel) :
    isWord l.mark = false ∧ DumpEntry.isSigil l.mark = false ∧
      Directive.isSeparator l.mark = false := by
  have h := l.endsLabel_mark
  simp only [DumpEntry.endsLabel, Bool.or_eq_true, beq_iff_eq] at h
  rcases h with h | h <;> rw [h] <;> decide

theorem isSeparator_of_mem_text {l : DumpLabel} {c : Char} (hc : c ∈ l.text) :
    Directive.isSeparator c = false := by
  rcases List.mem_append.mp hc with hname | hmark
  · exact isSeparator_of_isWord (l.isWord_of_mem c hname)
  · obtain rfl := List.mem_singleton.mp hmark
    exact l.mark_cases.2.2

end DumpLabel

/-- The parts of a token. They can be told apart: without a label and signs the expression does
not look as if it had one, and something is written. -/
structure DumpToken where
  /-- The label in front. -/
  label? : Option DumpLabel
  /-- The signs that mark a container. -/
  sigils : Text
  /-- What is shown. -/
  expression : Text
  isSigil_of_mem : ∀ c ∈ sigils, DumpEntry.isSigil c = true
  isSeparator_of_mem : ∀ c ∈ expression, Directive.isSeparator c = false
  isSigil_head : ∀ c ∈ expression.head?, DumpEntry.isSigil c = false
  bare : label? = none → sigils = [] →
    expression ≠ [] ∧ ∀ (l : DumpLabel) (rest : Text), expression ≠ l.text ++ rest

namespace DumpToken

/-- The token as it is written. -/
def text (t : DumpToken) : Text :=
  (t.label?.elim [] DumpLabel.text) ++ (t.sigils ++ t.expression)

/-- The entry that the parts make; without an expression there is none. -/
def entry? (t : DumpToken) : Option DumpEntry :=
  if t.expression.isEmpty then none
  else some ⟨t.label?.elim t.expression DumpLabel.name, t.expression⟩

/-- Tokens with runs of separators between them and at the ends. -/
inductive Writes : List DumpToken → Text → Prop
  /-- Separators alone. -/
  | none {payload : Text} (h : ∀ c ∈ payload, Directive.isSeparator c = true) : Writes [] payload
  /-- At least one token. -/
  | some {tokens : List DumpToken} {body : Text} (lead trail : Text)
    (hlead : ∀ c ∈ lead, Directive.isSeparator c = true)
    (hbody : Text.Separated Directive.isSeparator (tokens.map text) body)
    (htrail : ∀ c ∈ trail, Directive.isSeparator c = true) : Writes tokens (lead ++ body ++ trail)

end DumpToken

namespace DumpEntry

/-- An entry in good form: it shows something that reads as one expression, under a label or under
the expression itself. -/
structure IsProper (e : DumpEntry) : Prop where
  name_ne_nil : e.name ≠ []
  expression_ne_nil : e.expression ≠ []
  isSeparator_of_mem : ∀ c ∈ e.expression, Directive.isSeparator c = false
  isSigil_head : ∀ c ∈ e.expression.head?, isSigil c = false
  name : e.name = e.expression ∨ ∀ c ∈ e.name, isWord c = true

/-- Signs in front of an expression are dropped. -/
theorem dropWhile_isSigil {sigils expression : Text} (hs : ∀ c ∈ sigils, isSigil c = true)
    (he : ∀ c ∈ expression.head?, isSigil c = false) :
    (sigils ++ expression).dropWhile isSigil = expression := by
  rw [List.dropWhile_append_of_pos hs, Text.dropWhile_of_head? he]

/-- **A label is read** from word characters and what ends it. -/
theorem label?_eq_some_iff {token name rest : Text} :
    label? token = some (name, rest) ↔ ∃ l : DumpLabel, l.name = name ∧ token = l.text ++ rest := by
  constructor
  · intro h
    unfold label? at h
    dsimp only at h
    split at h
    · cases h
    · next c r hdrop =>
      split at h
      · next hends =>
        obtain ⟨rfl, rfl⟩ := Prod.mk.inj (Option.some.inj h)
        simp only [Bool.and_eq_true, Bool.not_eq_true', List.isEmpty_eq_false_iff] at hends
        refine ⟨⟨token.takeWhile isWord, c, hends.2,
          List.all_eq_true.mp List.all_takeWhile, hends.1⟩, rfl, ?_⟩
        calc token = token.takeWhile isWord ++ token.dropWhile isWord :=
              List.takeWhile_append_dropWhile.symm
          _ = _ := by simp [DumpLabel.text, hdrop]
      · cases h
  · rintro ⟨l, rfl, rfl⟩
    obtain ⟨hword, -, -⟩ := l.mark_cases
    have hne : l.name.isEmpty = false := by simp [l.name_ne_nil]
    -- the label is the longest run of word characters, since what ends it is none
    have htake : (l.text ++ rest).takeWhile isWord = l.name := by
      rw [DumpLabel.text, List.append_assoc, List.takeWhile_append_of_pos l.isWord_of_mem,
        List.singleton_append, List.takeWhile_cons_of_neg (by simp [hword]), List.append_nil]
    have hdrop : (l.text ++ rest).dropWhile isWord = l.mark :: rest := by
      rw [DumpLabel.text, List.append_assoc, List.dropWhile_append_of_pos l.isWord_of_mem,
        List.singleton_append, List.dropWhile_cons_of_neg (by simp [hword])]
    simp [label?, htake, hdrop, l.endsLabel_mark, hne]

/-- No label is read from signs. -/
theorem label?_of_isSigil {c : Char} (h : isSigil c = true) (rest : Text) :
    label? (c :: rest) = none := by
  simp only [isSigil, Bool.or_eq_true, beq_iff_eq] at h
  rcases h with rfl | rfl <;> rfl

/-- No label is read from a text that does not start with one. -/
theorem label?_eq_none_iff {token : Text} :
    label? token = none ↔ ∀ (l : DumpLabel) (rest : Text), token ≠ l.text ++ rest := by
  constructor
  · intro h l rest htoken
    rw [label?_eq_some_iff.mpr ⟨l, rfl, htoken⟩] at h
    cases h
  · intro h
    rcases hl : label? token with _ | ⟨name, rest⟩
    · rfl
    · obtain ⟨l, -, htoken⟩ := label?_eq_some_iff.mp hl
      exact absurd htoken (h l rest)

/-- **A token is read** as the entry of its parts. -/
theorem ofToken?_text (t : DumpToken) : ofToken? t.text = t.entry? := by
  have hdrop := dropWhile_isSigil t.isSigil_of_mem t.isSigil_head
  unfold ofToken?
  cases hl : t.label? with
  | some l =>
    have hlabel : label? t.text = some (l.name, t.sigils ++ t.expression) :=
      label?_eq_some_iff.mpr ⟨l, rfl, by simp [DumpToken.text, hl]⟩
    rw [hlabel]
    simp [named?, hdrop, DumpToken.entry?, hl]
  | none =>
    have htext : t.text = t.sigils ++ t.expression := by simp [DumpToken.text, hl]
    have hlabel : label? t.text = none := by
      rcases hs : t.sigils with _ | ⟨c, sigils⟩
      · rw [htext, hs]
        exact label?_eq_none_iff.mpr (t.bare hl hs).2
      · rw [htext, hs]
        exact label?_of_isSigil (t.isSigil_of_mem c (by simp [hs])) _
    rw [hlabel, htext]
    simp [named?, hdrop, DumpToken.entry?, hl]

end DumpEntry

namespace DumpToken

/-- A token is written without blanks and commas. -/
theorem isSeparator_of_mem_text {t : DumpToken} {c : Char} (hc : c ∈ t.text) :
    Directive.isSeparator c = false := by
  have hsigil : ∀ d, DumpEntry.isSigil d = true → Directive.isSeparator d = false := by
    intro d hd
    simp only [DumpEntry.isSigil, Bool.or_eq_true, beq_iff_eq] at hd
    rcases hd with rfl | rfl <;> decide
  rcases List.mem_append.mp hc with hlabel | hrest
  · cases hl : t.label? with
    | none => simp [hl] at hlabel
    | some l => exact DumpLabel.isSeparator_of_mem_text (by simpa [hl] using hlabel)
  · rcases List.mem_append.mp hrest with hs | he
    · exact hsigil c (t.isSigil_of_mem c hs)
    · exact t.isSeparator_of_mem c he

/-- What follows a label, if there is one, comes apart into signs and an expression. -/
theorem exists_text_eq_append {rest : Text} (label? : Option DumpLabel)
    (hsep : ∀ c ∈ rest, Directive.isSeparator c = false)
    (hbare : label? = none → rest ≠ [] ∧ ∀ (l : DumpLabel) (s : Text), rest ≠ l.text ++ s) :
    ∃ t : DumpToken, t.text = label?.elim [] DumpLabel.text ++ rest := by
  have hcut := List.takeWhile_append_dropWhile (p := DumpEntry.isSigil) (l := rest)
  have hhead : ∀ c ∈ (rest.dropWhile DumpEntry.isSigil).head?, DumpEntry.isSigil c = false := by
    intro c hc
    have hnot := List.head?_dropWhile_not DumpEntry.isSigil rest
    rw [hc] at hnot
    exact hnot
  refine ⟨⟨label?, rest.takeWhile DumpEntry.isSigil, rest.dropWhile DumpEntry.isSigil,
    List.all_eq_true.mp List.all_takeWhile, ?_, hhead, ?_⟩, ?_⟩
  · intro c hc
    exact hsep c ((List.dropWhile_sublist _).mem hc)
  · intro hnone hsigils
    rw [hsigils, List.nil_append] at hcut
    rw [hcut]
    exact hbare hnone
  · simp [text, hcut]

/-- **Every word is a token.** -/
theorem exists_text_eq {word : Text} (hne : word ≠ [])
    (hsep : ∀ c ∈ word, Directive.isSeparator c = false) : ∃ t : DumpToken, t.text = word := by
  by_cases h : ∃ (l : DumpLabel) (rest : Text), word = l.text ++ rest
  · obtain ⟨l, rest, rfl⟩ := h
    exact exists_text_eq_append (some l)
      (fun c hc => hsep c (List.mem_append_right _ hc)) (by simp)
  · exact exists_text_eq_append none hsep fun _ =>
      ⟨hne, fun l rest heq => h ⟨l, rest, heq⟩⟩

/-- The entry of a token is in good form. -/
theorem isProper_of_entry? {t : DumpToken} {e : DumpEntry} (h : t.entry? = some e) :
    e.IsProper := by
  unfold entry? at h
  split at h
  · cases h
  · next hne =>
    obtain rfl := Option.some.inj h
    have hexpr : t.expression ≠ [] := by simpa using hne
    constructor
    · cases t.label? with
      | none => exact hexpr
      | some l => exact l.name_ne_nil
    · exact hexpr
    · exact t.isSeparator_of_mem
    · exact t.isSigil_head
    · cases t.label? with
      | none => exact Or.inl rfl
      | some l => exact Or.inr l.isWord_of_mem

/-- **The entries of a payload** are those of its tokens. -/
theorem Writes.ofPayload_eq {tokens : List DumpToken} {payload : Text} (h : Writes tokens payload) :
    DumpEntry.ofPayload payload = tokens.filterMap entry? := by
  unfold DumpEntry.ofPayload
  cases h with
  | none h => simp [Text.words_eq_nil_iff.mpr h]
  | some lead trail hlead hbody htrail =>
    rw [Text.words_append_trail htrail, Text.words_append_of_forall hlead, hbody.words_eq,
      List.filterMap_map]
    congr 1
    funext t
    exact DumpEntry.ofToken?_text t

end DumpToken

namespace DumpEntry

/-- Every entry of a payload is in good form. -/
theorem isProper_of_mem {payload : Text} {e : DumpEntry} (h : e ∈ ofPayload payload) :
    e.IsProper := by
  obtain ⟨word, hword, he⟩ := List.mem_filterMap.mp h
  obtain ⟨hne, hsep⟩ := Text.mem_words hword
  obtain ⟨t, rfl⟩ := DumpToken.exists_text_eq hne hsep
  rw [ofToken?_text] at he
  exact DumpToken.isProper_of_entry? he

/-- Entries never cross a run of separators. -/
theorem ofPayload_append_append {mid : Text} (hne : mid ≠ [])
    (hmid : ∀ c ∈ mid, Directive.isSeparator c = true) (s t : Text) :
    ofPayload (s ++ mid ++ t) = ofPayload s ++ ofPayload t := by
  rw [ofPayload, Text.words_append_append hne hmid, List.filterMap_append]
  rfl

/-- **A payload is read exactly.** Tokens with separators around them are read as their entries,
in order; every entry of any payload is in good form; and a payload is read piece by piece between
runs of separators. -/
theorem ofPayload_exact :
    (∀ (tokens : List DumpToken) (payload : Text), DumpToken.Writes tokens payload →
      ofPayload payload = tokens.filterMap DumpToken.entry?) ∧
    (∀ (payload : Text), ∀ e ∈ ofPayload payload, e.IsProper) ∧
    ∀ (s mid t : Text), mid ≠ [] → (∀ c ∈ mid, Directive.isSeparator c = true) →
      ofPayload (s ++ mid ++ t) = ofPayload s ++ ofPayload t := by
  refine ⟨?_, ?_, ?_⟩
  · intro tokens payload h
    exact h.ofPayload_eq
  · intro payload e he
    exact isProper_of_mem he
  · intro s mid t hne hmid
    exact ofPayload_append_append hne hmid s t

theorem ofPayload_exact_sample :
    ofPayload ", a:@%x.y ,\t%z @ n=@,b[0]:1, ".toList =
        [⟨"a".toList, "x.y".toList⟩, ⟨"z".toList, "z".toList⟩, ⟨"b[0]:1".toList, "b[0]:1".toList⟩] ∧
      (⟨"n".toList, "x=1".toList⟩ : DumpEntry).IsProper ∧
      ofPayload ("a".toList ++ ", ".toList ++ "b".toList) =
        ofPayload "a".toList ++ ofPayload "b".toList := by
  let a : DumpLabel := ⟨"a".toList, ':', by decide, by decide, by decide⟩
  let n : DumpLabel := ⟨"n".toList, '=', by decide, by decide, by decide⟩
  -- five tokens, of which the third and the fourth name nothing
  let tokens : List DumpToken :=
    [⟨some a, "@%".toList, "x.y".toList, by decide, by decide, by rintro c ⟨⟩; rfl, nofun⟩,
      ⟨none, "%".toList, "z".toList, by decide, by decide, by rintro c ⟨⟩; rfl, nofun⟩,
      ⟨none, "@".toList, [], by decide, by decide, nofun, nofun⟩,
      ⟨some n, "@".toList, [], by decide, by decide, nofun, nofun⟩,
      ⟨none, [], "b[0]:1".toList, by decide, by decide, by rintro c ⟨⟩; rfl,
        fun _ _ => ⟨by decide, label?_eq_none_iff.mp (by decide)⟩⟩]
  have hwrites : DumpToken.Writes tokens (", ".toList ++ ("a:@%x.y".toList ++ " ,\t".toList ++
      ("%z".toList ++ " ".toList ++ ("@".toList ++ " ".toList ++ ("n=@".toList ++ ",".toList ++
        "b[0]:1".toList)))) ++ ", ".toList) := by
    refine .some _ _ (by decide) ?_ (by decide)
    refine .cons _ (by decide) (by decide) (by decide) (by decide) ?_
    refine .cons _ (by decide) (by decide) (by decide) (by decide) ?_
    refine .cons _ (by decide) (by decide) (by decide) (by decide) ?_
    refine .cons _ (by decide) (by decide) (by decide) (by decide) ?_
    exact .single (by decide) (by decide)
  refine ⟨?_, ?_, ?_⟩
  · exact ofPayload_exact.1 tokens _ hwrites
  · exact ofPayload_exact.2.1 "n:x=1".toList _ (by decide)
  · exact ofPayload_exact.2.2 _ _ _ (by decide) (by decide)

end DumpEntry

end Marginalia
