import Marginalia.Proofs.Program.Literal
import Marginalia.Proofs.Program.Said
import Marginalia.Proofs.Text.RawLines

/-!
# Text inside brackets

While a bracket is open, the lines that follow belong to the line that opened it. What stands inside
brackets is as good as its tokens then: it does not matter where its lines end and how far they are
indented.

## Main definitions

* `Program.saidInside`: what is said from the inside of a bracket on
* `Program.Reads`: a text that stands for some tokens inside brackets
* `Program.Lists`: a text that stands for several things with commas between them

## Main results

* `Program.saidFrom_token`: the first token of what is left of a line
* `Program.Reads.blank`, `Program.Reads.append`, `Program.Reads.enclosed`: what stands for tokens is
  put together from blanks, from neighbours and from brackets
* `Program.lists_joined`, `Program.reads_adjacent`: lists with commas, and adjacent texts
* `Program.literalValue?_enclosed`: brackets around what stands for tokens are a literal
-/

namespace Marginalia

namespace Program

variable {number : Nat} {opened : Nesting} {begun : Said} {c close : Char} {r s t : Text}
  {ts us : List Token} {u : Token}

/-! ## One token more -/

/-- The first line of a text starts as the text does. -/
theorem follows_of_splitAt (hr : Follows r) {p : Text} {ps : List Text}
    (h : r.splitAt '\n' = p :: ps) : Follows p := by
  cases r with
  | nil =>
    cases h
    exact hr
  | cons d r =>
    rw [Text.splitAt] at h
    split at h
    · cases h
      intro c hc
      cases hc
    · intro c hc
      obtain ⟨q, qs, hq⟩ := List.exists_cons_of_ne_nil (Text.splitAt_ne_nil '\n' r)
      rw [hq] at h
      cases h
      exact hr c hc

/-- The line with more tokens at its end. -/
def Said.more (begun : Said) (ts : List Token) : Said := { begun with tokens := begun.tokens ++ ts }

theorem Said.more_nil (begun : Said) : begun.more [] = begun := by
  rw [Said.more, List.append_nil]

theorem Said.more_more (begun : Said) (ts us : List Token) :
    (begun.more ts).more us = begun.more (ts ++ us) := by
  rw [Said.more, Said.more, Said.more, List.append_assoc]

/-- **The first token of what is left of a line**, if a bracket is open behind it. -/
theorem saidFrom_token {first : Option Said} {opened' : Nesting} {p : Text} {ps : List Text}
    (hs : '\n' ∉ s) (hsplit : r.splitAt '\n' = p :: ps) (hu : Lexes (s ++ p) [u] p)
    (hafter : opened.after number u = .ok opened') (ho : opened' ≠ []) :
    saidFrom number opened first ((s ++ r).splitAt '\n') =
      saidFrom number opened' (some (Said.extend number (s ++ p) [u] first))
        (r.splitAt '\n') := by
  have hall : opened.afterAll number [u] = .ok opened' := by
    rw [Nesting.afterAll, hafter]
    rfl
  have htokens := hu.tokens_eq hall
  rw [Text.splitAt_of_notMem hs hsplit, hsplit]
  cases hp : tokens number opened' p with
  | error cause =>
    rw [hp] at htokens
    rw [saidFrom_error hp, saidFrom_error htokens]
  | ok said =>
    obtain ⟨us, o⟩ := said
    rw [hp] at htokens
    by_cases hus : us = []
    · -- the line ends behind the token
      subst hus
      obtain rfl : opened' = o := Except.ok.inj (afterAll_of_tokens hp)
      rw [saidFrom_silent hp, saidFrom_begun (List.cons_ne_nil u []) ho htokens]
    -- more is said on the line, which the token comes in front of
    have hextend : Said.extend number (s ++ p) (u :: us) first =
        Said.extend number p us (some (Said.extend number (s ++ p) [u] first)) := by
      cases first <;> simp [Said.extend]
    by_cases hnil : o = []
    · subst hnil
      rw [saidFrom_ended hus hp, saidFrom_ended (List.cons_ne_nil u us) htokens, hextend]
    · rw [saidFrom_begun hus hnil hp, saidFrom_begun (List.cons_ne_nil u us) hnil htokens, hextend]

/-! ## Inside brackets -/

/-- What is said from the inside of a bracket on. -/
def saidInside (number : Nat) (opened : Nesting) (begun : Said) (s : Text) : Option (List Said) :=
  saidFrom number opened (some begun) (s.splitAt '\n')

theorem saidInside_lf (number : Nat) (opened : Nesting) (begun : Said) (r : Text) :
    saidInside number opened begun ('\n' :: r) = saidInside (number + 1) opened begun r := by
  rw [saidInside, Text.splitAt, if_pos rfl]
  exact saidFrom_silent tokens_nil

theorem saidInside_gap (hc : isGap c = true) (number : Nat) (opened : Nesting) (begun : Said)
    (r : Text) : saidInside number opened begun (c :: r) = saidInside number opened begun r := by
  have hlf : c ≠ '\n' := by
    rintro rfl
    exact absurd hc (by decide)
  obtain ⟨p, ps, hsplit⟩ := List.exists_cons_of_ne_nil (Text.splitAt_ne_nil '\n' r)
  rw [saidInside, saidInside, Text.splitAt, if_neg hlf, hsplit, Text.glue, saidFrom, saidFrom,
    tokens_gap hc]
  rfl

/-- One token more inside a bracket. -/
theorem saidInside_token {opened' : Nesting} (hs : '\n' ∉ s)
    (hu : ∀ p, (Follows r → Follows p) → Lexes (s ++ p) [u] p)
    (hafter : opened.after number u = .ok opened') (ho : opened' ≠ []) :
    saidInside number opened begun (s ++ r) = saidInside number opened' (begun.more [u]) r := by
  obtain ⟨p, ps, hsplit⟩ := List.exists_cons_of_ne_nil (Text.splitAt_ne_nil '\n' r)
  exact saidFrom_token hs hsplit (hu p fun hr => follows_of_splitAt hr hsplit) hafter ho

theorem ne_of_mem_loneMarks (hc : c ∈ loneMarks) : c ≠ '\n' ∧ c ≠ '\r' :=
  (by decide : ∀ c ∈ loneMarks, c ≠ '\n' ∧ c ≠ '\r') c hc

theorem notMem_lf_mark (hc : c ∈ loneMarks) : '\n' ∉ [c] := fun h =>
  (ne_of_mem_loneMarks hc).1 (List.mem_singleton.mp h).symm

theorem saidInside_mark {opened' : Nesting} (hc : c ∈ loneMarks)
    (hafter : opened.after number (.mark c) = .ok opened') (ho : opened' ≠ []) :
    saidInside number opened begun (c :: r) =
      saidInside number opened' (begun.more [.mark c]) r :=
  saidInside_token (s := [c]) (notMem_lf_mark hc) (fun p _ => lexes_mark hc p) hafter ho

/-- A text that stands for some tokens inside brackets, in front of what may follow any token. It
may take several lines, so the number of the line that it ends on is left open. -/
structure Reads (s : Text) (ts : List Token) : Prop where
  /-- No line end is changed where lines are counted. -/
  notMem_cr : '\r' ∉ s
  /-- The tokens are read, and the same brackets are open behind them. -/
  inside : ∀ number (opened : Nesting) begun r, opened ≠ [] → Follows r →
    ∃ number', saidInside number opened begun (s ++ r) =
      saidInside number' opened (begun.more ts) r

theorem reads_nil : Reads [] [] where
  notMem_cr := List.not_mem_nil
  inside number opened begun r _ _ := ⟨number, by rw [begun.more_nil]; rfl⟩

/-- **Blanks and line ends** in front of what stands for tokens. -/
theorem Reads.blank (h : Reads s ts) (hc : isGap c = true ∨ c = '\n') : Reads (c :: s) ts where
  notMem_cr := by
    intro hmem
    rcases List.mem_cons.mp hmem with rfl | hmem
    · exact absurd hc (by decide)
    · exact h.notMem_cr hmem
  inside number opened begun r ho hr := by
    rcases hc with hc | rfl
    · rw [List.cons_append, saidInside_gap hc]
      exact h.inside number opened begun r ho hr
    · rw [List.cons_append, saidInside_lf]
      exact h.inside (number + 1) opened begun r ho hr

theorem Reads.blanks (h : Reads s ts) (ht : ∀ c ∈ t, isGap c = true ∨ c = '\n') :
    Reads (t ++ s) ts := by
  induction t with
  | nil => exact h
  | cons c t ih =>
    obtain ⟨hc, ht⟩ := List.forall_mem_cons.mp ht
    exact (ih ht).blank hc

/-- A mark that is no bracket in front of what stands for tokens. -/
theorem Reads.mark (h : Reads s ts) (hc : c ∈ [',', ':', '-']) : Reads (c :: s) (.mark c :: ts) :=
  have hmark : c ∈ loneMarks := (by decide : [',', ':', '-'] ⊆ loneMarks) hc
  { notMem_cr := List.not_mem_cons_of_ne_of_not_mem (ne_of_mem_loneMarks hmark).2.symm h.notMem_cr
    inside := by
      intro number opened begun r ho hr
      have hbracket : (closing? c).isSome = false ∧ isClosing c = false :=
        (by decide : ∀ c ∈ [',', ':', '-'], (closing? c).isSome = false ∧ isClosing c = false) c hc
      have hafter : opened.after number (.mark c) = .ok opened := by
        simp [Nesting.after, hbracket]
      obtain ⟨last, hlast⟩ := h.inside number opened (begun.more [.mark c]) r ho hr
      refine ⟨last, ?_⟩
      rw [List.cons_append, saidInside_mark hmark hafter ho, hlast, Said.more_more,
        List.singleton_append] }

/-- A token that is written on one line and is no bracket. -/
theorem reads_of_spells (h : Spells s [u]) (hs : s.OneLine)
    (hu : ∀ number (opened : Nesting), opened.after number u = .ok opened) : Reads s [u] where
  notMem_cr hmem := absurd (hs _ hmem) (by decide)
  inside number opened begun r ho hr :=
    ⟨number, saidInside_token hs.notMem_lf (fun p hp => h p (hp hr)) (hu number opened) ho⟩

/-- **Neighbours**: what comes second starts with what may follow a token. -/
theorem Reads.append (hs : Reads s ts) (ht : Reads (c :: t) us)
    (hc : c ∈ [',', ')', ']', ':', '\x7d', '\n']) : Reads (s ++ c :: t) (ts ++ us) where
  notMem_cr hmem := (List.mem_append.mp hmem).elim hs.notMem_cr ht.notMem_cr
  inside number opened begun r ho hr := by
    obtain ⟨mid, hmid⟩ := hs.inside number opened begun (c :: (t ++ r)) ho (follows_cons hc _)
    obtain ⟨last, hlast⟩ := ht.inside mid opened (begun.more ts) r ho hr
    rw [List.append_assoc, List.cons_append, hmid, ← List.cons_append, hlast, Said.more_more]
    exact ⟨last, rfl⟩

/-- The marks of brackets. -/
theorem mem_loneMarks_of_closing? (h : closing? c = some close) :
    c ∈ loneMarks ∧ close ∈ loneMarks := by
  unfold closing? at h
  split_ifs at h <;> (subst_vars; cases h; decide)

/-- A closing bracket may follow any token. -/
theorem follows_closing (h : closing? c = some close) (r : Text) : Follows (close :: r) := by
  refine follows_cons ?_ r
  unfold closing? at h
  split_ifs at h <;> (cases h; decide)

theorem after_opening (h : closing? c = some close) (number : Nat) (opened : Nesting) :
    opened.after number (.mark c) = .ok ((c, number) :: opened) := by
  simp [Nesting.after, h]

theorem after_closing (h : closing? c = some close) (number line : Nat) (opened : Nesting) :
    Nesting.after ((c, line) :: opened) number (.mark close) = .ok opened := by
  have hclose : (closing? close).isSome = false ∧ isClosing close = true := by
    unfold closing? at h
    split_ifs at h <;> (cases h; decide)
  simp [Nesting.after, hclose, h]

/-- **Brackets** around what stands for tokens. -/
theorem Reads.enclosed (h : Reads s ts) (hc : closing? c = some close) :
    Reads (c :: (s ++ [close])) (.mark c :: (ts ++ [.mark close])) :=
  have ⟨hopen, hclose⟩ := mem_loneMarks_of_closing? hc
  { notMem_cr := by
      simp [h.notMem_cr, (ne_of_mem_loneMarks hopen).2.symm, (ne_of_mem_loneMarks hclose).2.symm]
    inside := by
      intro number opened begun r ho hr
      have hne : (c, number) :: opened ≠ [] := List.cons_ne_nil _ _
      obtain ⟨last, hlast⟩ := h.inside number ((c, number) :: opened) (begun.more [.mark c])
        (close :: r) hne (follows_closing hc r)
      refine ⟨last, ?_⟩
      calc saidInside number opened begun (c :: (s ++ [close]) ++ r)
          = saidInside number opened begun (c :: (s ++ close :: r)) := by simp
        _ = saidInside number ((c, number) :: opened) (begun.more [.mark c]) (s ++ close :: r) :=
          saidInside_mark hopen (after_opening hc _ _) hne
        _ = saidInside last ((c, number) :: opened) ((begun.more [.mark c]).more ts) (close :: r) :=
          hlast
        _ = saidInside last opened (((begun.more [.mark c]).more ts).more [.mark close]) r :=
          saidInside_mark hclose (after_closing hc _ _ _) ho
        _ = saidInside last opened (begun.more (.mark c :: (ts ++ [.mark close]))) r := by
          rw [Said.more_more, Said.more_more, List.singleton_append] }

/-! ## Lists -/

/-- **A list with commas** between neighbours, with blanks and line ends behind the commas. -/
theorem reads_joined {gap : Text} (hgap : ∀ c ∈ gap, isGap c = true ∨ c = '\n')
    {parts : List Text} {rows : List (List Token)} (h : List.Forall₂ Reads parts rows) :
    Reads (Text.joined (',' :: gap) parts) (joinedTokens rows) := by
  induction h with
  | nil => exact reads_nil
  | @cons part row parts rows hpart hrest ih =>
    cases hrest with
    | nil => exact hpart
    | cons hnext hrest =>
      have hcomma := (ih.blanks hgap).mark (c := ',') (by decide)
      simpa [Text.joined, joinedTokens] using hpart.append hcomma (by decide)

/-- A text that stands for several things inside brackets, with commas between neighbours. -/
def Lists {α : Type} (P : List Token → α → Prop) (s : Text) (as : List α) : Prop :=
  ∃ rows, Reads s (joinedTokens rows) ∧ List.Forall₂ P rows as

theorem Lists.blank {α : Type} {P : List Token → α → Prop} {as : List α} (h : Lists P s as)
    (hc : isGap c = true ∨ c = '\n') : Lists P (c :: s) as := by
  obtain ⟨rows, hreads, hrows⟩ := h
  exact ⟨rows, hreads.blank hc, hrows⟩

/-- The rows of tokens of texts that stand for one thing each. -/
theorem exists_rows {α : Type} {P : List Token → α → Prop} {as : List α} {parts : List Text}
    (h : List.Forall₂ (fun s a => ∃ ts, Reads s ts ∧ P ts a) parts as) :
    ∃ rows, List.Forall₂ Reads parts rows ∧ List.Forall₂ P rows as := by
  induction h with
  | nil => exact ⟨[], .nil, .nil⟩
  | cons hpart _ ih =>
    obtain ⟨ts, hreads, hts⟩ := hpart
    obtain ⟨rows, hparts, hrows⟩ := ih
    exact ⟨ts :: rows, .cons hreads hparts, .cons hts hrows⟩

/-- **Texts that stand for one thing each** stand for all of them together. -/
theorem lists_joined {α : Type} {P : List Token → α → Prop} {as : List α} (gap : Text)
    (hgap : ∀ c ∈ gap, isGap c = true ∨ c = '\n') {parts : List Text}
    (h : List.Forall₂ (fun s a => ∃ ts, Reads s ts ∧ P ts a) parts as) :
    Lists P (Text.joined (',' :: gap) parts) as := by
  obtain ⟨rows, hparts, hrows⟩ := exists_rows h
  exact ⟨rows, reads_joined hgap hparts, hrows⟩

/-- **Adjacent texts** on lines of their own. -/
theorem reads_adjacent {gap : Text} (hgap : ∀ c ∈ gap, isGap c = true ∨ c = '\n')
    {parts : List Text} {us : List Token} (h : List.Forall₂ (fun s u => Reads s [u]) parts us) :
    Reads (Text.joined ('\n' :: gap) parts) us := by
  induction h with
  | nil => exact reads_nil
  | @cons part u parts us hpart hrest ih =>
    cases hrest with
    | nil => exact hpart
    | cons hnext hrest =>
      have hline := (ih.blanks hgap).blank (c := '\n') (Or.inr rfl)
      simpa [Text.joined] using hpart.append hline (by decide)

/-! ## Whole texts -/

/-- The only line of a text that is enclosed in brackets. -/
theorem lines_enclosed (h : Reads s ts) (hc : closing? c = some close) :
    lines (c :: (s ++ [close])) = .ok [⟨1, 0, .mark c :: (ts ++ [.mark close])⟩] := by
  obtain ⟨hopen, hclose⟩ := mem_loneMarks_of_closing? hc
  have hgap : isGap c = false := (by decide : ∀ c ∈ loneMarks, isGap c = false) c hopen
  have hne : [(c, 1)] ≠ [] := List.cons_ne_nil _ _
  -- the opening bracket begins the line
  obtain ⟨p, ps, hsplit⟩ := List.exists_cons_of_ne_nil (Text.splitAt_ne_nil '\n' (s ++ [close]))
  have hindent : Indent.ofLine (c :: p) = .none := @indent_ofLine [] nofun c hgap p
  have hfirst : saidFrom 1 [] none (Text.splitAt '\n' (c :: (s ++ [close]))) =
      saidInside 1 [(c, 1)] ⟨1, .none, [.mark c]⟩ (s ++ [close]) := by
    rw [← hindent]
    exact saidFrom_token (notMem_lf_mark hopen) hsplit (lexes_mark hopen p) (after_opening hc 1 [])
      hne
  -- and the closing one ends it
  obtain ⟨number, hinside⟩ := h.inside 1 [(c, 1)] ⟨1, .none, [.mark c]⟩ [close] hne
    (follows_closing hc [])
  have hall : Nesting.afterAll number [(c, 1)] [.mark close] = .ok [] := by
    rw [Nesting.afterAll, after_closing hc]
    rfl
  have hlast := (lexes_mark hclose []).tokens_eq_ok hall
  have hone : Text.splitAt '\n' [close] = [[close]] :=
    Text.splitAt_of_notMem (notMem_lf_mark hclose) (s := []) rfl
  rw [lines_eq_ok_iff, Text.unixLines_of_notMem (h.enclosed hc).notMem_cr, hfirst, hinside,
    saidInside, hone, saidFrom_ended (List.cons_ne_nil _ []) hlast]
  exact ⟨_, rfl, rfl⟩

/-- **Brackets around what stands for tokens** are the literal of what the tokens stand for. -/
theorem literalValue?_enclosed {v : Value} (h : Reads s ts) (hc : closing? c = some close)
    (hv : Means (.mark c :: (ts ++ [.mark close])) v) :
    literalValue? (c :: (s ++ [close])) = some v := by
  obtain ⟨e, he, hvalue⟩ := hv
  rw [literalValue?, lines_enclosed h hc]
  dsimp only
  rw [if_pos rfl, he]
  exact hvalue

end Program

end Marginalia
