import Marginalia.Program.Reader
import Marginalia.Proofs.Program.Said

/-!
# Programs as their lines

A text is a program if every line of it closes its brackets and is the first line of a function or
some statements, at a depth where it may stand. Depths are those of at most one indentation, so that
what a line may do next depends on its own indentation.

## Main definitions

* `Program.Utters`: what the lines of a program say, each of them for itself
* `Program.Gathers`: the statements and the items that lines make
* `Program.Stage`: the indentations in force in a block
* `Program.IsSound`: an item with nothing wrong

## Main results

* `Program.utters_iff`: lines that close their brackets say what `Utters` says
* `Program.gather_eq_ok_iff`: lines are gathered as `Gathers` says
* `Program.items_eq_ok_iff`: the program that a text is
* `Program.Stage.step`: what a line does to a stage
-/

namespace Marginalia

namespace Program

/-! ## What lines say -/

/-- What the lines of a program say, numbered from a number on: no bracket is open at the end of a
line, and not too many of them are open at a time. -/
inductive Utters : Nat → List Text → List Said → Prop
  | nil (number : Nat) : Utters number [] []
  | silent {number : Nat} {raw : Text} {rest : List Text} {gs : List Said}
    (h : tokens number [] raw = .ok ([], [])) (t : Utters (number + 1) rest gs) :
    Utters number (raw :: rest) gs
  | said {number : Nat} {raw : Text} {rest : List Text} {ts : List Token} {gs : List Said}
    (hts : ts ≠ []) (h : tokens number [] raw = .ok (ts, [])) (hn : nesting 0 ts ≤ maxNesting)
    (t : Utters (number + 1) rest gs) :
    Utters number (raw :: rest) (⟨number, Indent.ofLine raw, ts⟩ :: gs)

theorem bracketFault?_eq_none_iff {number : Nat} {raw : Text} :
    bracketFault? number raw = none ↔
      ∃ ts, tokens number [] raw = .ok (ts, []) ∧ nesting 0 ts ≤ maxNesting := by
  unfold bracketFault?
  cases tokens number [] raw with
  | error cause => simp
  | ok p =>
    obtain ⟨ts, opened⟩ := p
    by_cases hn : maxNesting < nesting 0 ts
    · simp [hn]
    · cases opened <;> simp [hn, Nat.le_of_not_lt hn]

theorem bracketFaultFrom?_cons_eq_none {number : Nat} {raw : Text} {rest : List Text} :
    bracketFaultFrom? number (raw :: rest) = none ↔
      bracketFault? number raw = none ∧ bracketFaultFrom? (number + 1) rest = none := by
  rw [bracketFaultFrom?]
  cases bracketFault? number raw <;> simp

/-- **Lines that close their brackets** say what each of them says for itself. -/
theorem utters_iff {number : Nat} {raws : List Text} {gs : List Said} :
    Utters number raws gs ↔
      saidFrom number [] none raws = some gs ∧ bracketFaultFrom? number raws = none := by
  constructor
  · intro h
    induction h with
    | nil => exact ⟨rfl, rfl⟩
    | silent h _ ih =>
      rw [saidFrom_silent h, bracketFaultFrom?_cons_eq_none, bracketFault?_eq_none_iff]
      exact ⟨ih.1, ⟨[], h, Nat.zero_le _⟩, ih.2⟩
    | said hts h hn _ ih =>
      rw [saidFrom_ended hts h, ih.1, bracketFaultFrom?_cons_eq_none, bracketFault?_eq_none_iff]
      exact ⟨rfl, ⟨_, h, hn⟩, ih.2⟩
  · rintro ⟨hs, hb⟩
    induction raws generalizing number gs with
    | nil =>
      cases hs
      exact .nil number
    | cons raw rest ih =>
      obtain ⟨hraw, hrest⟩ := bracketFaultFrom?_cons_eq_none.mp hb
      obtain ⟨ts, h, hn⟩ := bracketFault?_eq_none_iff.mp hraw
      by_cases hts : ts = []
      · subst hts
        rw [saidFrom_silent h] at hs
        exact .silent h (ih hs hrest)
      · rw [saidFrom_ended hts h] at hs
        obtain ⟨gs', hgs, rfl⟩ := Option.map_eq_some_iff.mp hs
        exact .said hts h hn (ih hgs hrest)

/-- Lines say one thing. -/
theorem Utters.eq {number : Nat} {raws : List Text} {gs gs' : List Said}
    (h : Utters number raws gs) (h' : Utters number raws gs') : gs = gs' :=
  Option.some.inj ((utters_iff.mp h).1.symm.trans (utters_iff.mp h').1)

/-- Every line of a program has tokens. -/
theorem Utters.exists_tokens {number : Nat} {raws : List Text} {gs : List Said}
    (h : Utters number raws gs) {raw : Text} (hraw : raw ∈ raws) :
    ∃ n ts, tokens n [] raw = .ok (ts, []) := by
  induction h with
  | nil => cases hraw
  | silent ht _ ih => exact (List.mem_cons.mp hraw).elim (fun he => he ▸ ⟨_, _, ht⟩) ih
  | said _ ht _ _ ih => exact (List.mem_cons.mp hraw).elim (fun he => he ▸ ⟨_, _, ht⟩) ih

/-! ## What lines make -/

/-- The statements of the function that is open at the first line, and the items after it. -/
inductive Gathers : Block → List Line → List Placed → List Item → Prop
  | nil {b : Block} (h : ∀ n, b ≠ .begun n) : Gathers b [] [] []
  | header {b : Block} {line : Line} {rest : List Line} {n : Text} {ps : List Text}
    {body : List Placed} {items : List Item} (hr : b.refuses? line.depth = none)
    (hd : line.depth = 0) (hh : header? line.tokens = some (n, ps))
    (t : Gathers (.begun line.number) rest body items) :
    Gathers b (line :: rest) [] (.routine ⟨line.number, n, ps, body⟩ :: items)
  | outside {b : Block} {line : Line} {rest : List Line} {ss body : List Placed}
    {items : List Item} (hr : b.refuses? line.depth = none) (hd : line.depth = 0)
    (hh : header? line.tokens = none) (hs : statements? line = some ss)
    (t : Gathers .outside rest body items) :
    Gathers b (line :: rest) body (ss.map .statement ++ items)
  | inside {b : Block} {line : Line} {rest : List Line} {ss body : List Placed}
    {items : List Item} (hr : b.refuses? line.depth = none) (hd : line.depth ≠ 0)
    (hs : statements? line = some ss) (t : Gathers .inside rest body items) :
    Gathers b (line :: rest) (ss ++ body) items

theorem gathers_of_gather {last : Nat} {b : Block} {ls : List Line} {body : List Placed}
    {items : List Item} (h : gather last b ls = .ok (body, items)) : Gathers b ls body items := by
  induction ls generalizing b body items with
  | nil =>
    cases b with
    | begun n => cases h
    | outside => cases h; exact .nil (by simp)
    | inside => cases h; exact .nil (by simp)
  | cons line rest ih =>
    rw [gather] at h
    split at h
    · cases h
    next hr =>
    split at h
    · next n ps hh hd =>
      obtain ⟨⟨body', items'⟩, hrest, he⟩ := Value.map_eq_ok_iff.mp h
      cases he
      exact .header hr hd hh (ih hrest)
    · next ss hs hd hh =>
      -- the case is reached only where the line is no first line of a function
      obtain ⟨⟨body', items'⟩, hrest, he⟩ := Value.map_eq_ok_iff.mp h
      cases he
      refine .outside hr hd ?_ hs (ih hrest)
      cases hheader : header? line.tokens with
      | none => rfl
      | some p => exact absurd hheader (hh p.1 p.2)
    · next ss hs hd _ =>
      obtain ⟨⟨body', items'⟩, hrest, he⟩ := Value.map_eq_ok_iff.mp h
      cases he
      exact .inside hr hd hs (ih hrest)
    · cases h

theorem gather_of_gathers {b : Block} {ls : List Line} {body : List Placed} {items : List Item}
    (h : Gathers b ls body items) (last : Nat) : gather last b ls = .ok (body, items) := by
  induction h with
  | @nil b hb =>
    cases b with
    | begun n => exact absurd rfl (hb n)
    | outside => rfl
    | inside => rfl
  | header hr hd hh _ ih =>
    rw [gather, hr, hd, hh]
    dsimp only
    rw [ih]
    rfl
  | outside hr hd hh hs _ ih =>
    rw [gather, hr, hd, hh, hs]
    dsimp only
    rw [ih]
    rfl
  | @inside b line rest ss body items hr hd hs _ ih =>
    obtain ⟨k, hk⟩ := Nat.exists_eq_succ_of_ne_zero hd
    rw [gather, hr, hk, hs]
    dsimp only
    rw [ih]
    cases header? line.tokens <;> rfl

/-- **Lines are gathered as `Gathers` says**, wherever the text ends. -/
theorem gather_eq_ok_iff {last : Nat} {b : Block} {ls : List Line} {body : List Placed}
    {items : List Item} : gather last b ls = .ok (body, items) ↔ Gathers b ls body items :=
  ⟨gathers_of_gather, fun h => gather_of_gathers h last⟩

/-- An item with nothing wrong. -/
structure Item.IsSound (i : Item) : Prop where
  name : i.nameFault? = none
  place : i.placeFault? = none

theorem checked_eq_ok_iff {is js : List Item} :
    checked is = .ok js ↔ is = js ∧ ∀ i ∈ is, i.IsSound := by
  unfold checked
  constructor
  · intro h
    split at h
    · cases h
    · cases h
    · next hn hp =>
      rw [List.findSome?_eq_none_iff] at hn hp
      exact ⟨Except.ok.inj h, fun i hi => ⟨hn i hi, hp i hi⟩⟩
  · rintro ⟨rfl, h⟩
    rw [List.findSome?_eq_none_iff.mpr fun i hi => (h i hi).name,
      List.findSome?_eq_none_iff.mpr fun i hi => (h i hi).place]

/-- **The program that a text is.** -/
theorem items_eq_ok_iff {s : Text} {is : List Item} :
    items s = .ok is ↔
      (∀ c ∈ s, c.toNat ≠ 0) ∧ ∃ gs ls body,
        Utters 1 (s.unixLines.splitAt '\n') gs ∧ levels [] none gs = some ls ∧
          Gathers .outside ls body is ∧ ∀ i ∈ is, i.IsSound := by
  unfold items
  constructor
  · intro h
    split at h
    · cases h
    next hnull =>
    refine ⟨by simpa using hnull, ?_⟩
    split at h
    · cases h
    · cases h
    next ls hlines hbrackets =>
    split at h
    · cases h
    next body js hgather =>
    obtain ⟨gs, hgs, hls⟩ := lines_eq_ok_iff.mp hlines
    obtain ⟨rfl, hsound⟩ := checked_eq_ok_iff.mp h
    exact ⟨gs, ls, body, utters_iff.mpr ⟨hgs, hbrackets⟩, hls, gather_eq_ok_iff.mp hgather, hsound⟩
  · rintro ⟨hnull, gs, ls, body, hgs, hls, hg, hsound⟩
    obtain ⟨hsaid, hbrackets⟩ := utters_iff.mp hgs
    rw [if_neg (by simpa using hnull), lines_eq_ok_iff.mpr ⟨gs, hsaid, hls⟩, hbrackets]
    dsimp only
    rw [gather_eq_ok_iff.mpr hg]
    exact checked_eq_ok_iff.mpr ⟨rfl, hsound⟩

/-! ## Lines -/

/-- The first line stands where it may. -/
theorem Gathers.refuses?_eq_none {b : Block} {line : Line} {rest : List Line} {body : List Placed}
    {items : List Item} (h : Gathers b (line :: rest) body items) :
    b.refuses? line.depth = none := by
  cases h <;> assumption

section FirstLine

variable {b : Block} {line : Line} {rest : List Line} {body : List Placed} {items : List Item}

/-- The first line of a function. -/
theorem Gathers.of_header {n : Text} {ps : List Text} (h : Gathers b (line :: rest) body items)
    (hd : line.depth = 0) (hh : header? line.tokens = some (n, ps)) :
    ∃ body' items', Gathers (.begun line.number) rest body' items' ∧ body = [] ∧
      items = .routine ⟨line.number, n, ps, body'⟩ :: items' := by
  cases h with
  | header _ _ hh' t =>
    cases hh.symm.trans hh'
    exact ⟨_, _, t, rfl, rfl⟩
  | outside _ _ hh' => cases hh.symm.trans hh'
  | inside _ hd' => exact absurd hd hd'

/-- Statements at the margin. -/
theorem Gathers.of_outside (h : Gathers b (line :: rest) body items) (hd : line.depth = 0)
    (hh : header? line.tokens = none) :
    ∃ ss items', statements? line = some ss ∧ Gathers .outside rest body items' ∧
      items = ss.map .statement ++ items' := by
  cases h with
  | header _ _ hh' => cases hh.symm.trans hh'
  | outside _ _ _ hs t => exact ⟨_, _, hs, t, rfl⟩
  | inside _ hd' => exact absurd hd hd'

/-- Statements of a function. -/
theorem Gathers.of_inside (h : Gathers b (line :: rest) body items) (hd : line.depth ≠ 0) :
    ∃ ss body', statements? line = some ss ∧ Gathers .inside rest body' items ∧
      body = ss ++ body' := by
  cases h with
  | header _ hd' => exact absurd hd' hd
  | outside _ hd' => exact absurd hd' hd
  | inside _ _ hs t => exact ⟨_, _, hs, t, rfl⟩

end FirstLine

/-- The depth of a line, and the depths of the lines below it. -/
theorem levels_cons {above : List Indent} {s : Said} {gs : List Said} {ls : List Line}
    (h : levels above none (s :: gs) = some ls) :
    ∃ above' ls', Indent.settle above s.indent = .ok above' ∧ levels above' none gs = some ls' ∧
      ls = ⟨s.number, above'.length, s.tokens⟩ :: ls' := by
  rw [levels] at h
  split at h
  · cases h
  · next above' hsettle =>
    obtain ⟨ls', hls, rfl⟩ := Option.map_eq_some_iff.mp h
    exact ⟨above', ls', hsettle, hls, rfl⟩

theorem levels_of_settle {above above' : List Indent} {s : Said} {gs : List Said} {ls : List Line}
    (hs : Indent.settle above s.indent = .ok above') (h : levels above' none gs = some ls) :
    levels above none (s :: gs) = some (⟨s.number, above'.length, s.tokens⟩ :: ls) := by
  rw [levels, hs]
  dsimp only
  rw [h]
  rfl

/-- The statements of a line are read from its tokens and stand on it. -/
theorem exists_of_mem_statements? {line : Line} {ss : List Placed}
    (h : statements? line = some ss) :
    ∀ s ∈ ss, s.line = line.number ∧ ∃ ts, statement? ts = some s.statement := by
  unfold statements? at h
  generalize statementTokens line.tokens = parts at h
  induction parts generalizing ss with
  | nil =>
    cases h
    simp
  | cons ts parts ih =>
    rw [List.mapM_cons] at h
    obtain ⟨s, hs, h⟩ := Option.bind_eq_some_iff.mp h
    obtain ⟨ss', hss, h⟩ := Option.bind_eq_some_iff.mp h
    obtain ⟨t, ht, rfl⟩ := Option.map_eq_some_iff.mp hs
    cases h
    exact List.forall_mem_cons.mpr ⟨⟨rfl, ts, ht⟩, ih hss⟩

/-- The statements of a line stand on it. -/
theorem line_of_statements? {line : Line} {ss : List Placed} (h : statements? line = some ss) :
    ∀ s ∈ ss, s.line = line.number := fun s hs => (exists_of_mem_statements? h s hs).1

/-! ## Stages -/

/-- An indentation that leads away from the margin. -/
structure Indent.IsDeep (i : Indent) : Prop where
  column : 0 < i.column
  narrow : 0 < i.narrow

/-- The indentations in force in a block. -/
inductive Stage : Block → List Indent → Prop
  | outside : Stage .outside []
  | begun (n : Nat) : Stage (.begun n) []
  | inside {i : Indent} (h : i.IsDeep) : Stage .inside [i]

/-- What a line does to some indentations. -/
theorem settle_cases {above above' : List Indent} {i : Indent}
    (h : Indent.settle above i = .ok above') :
    ((above.head?.getD .none).column < i.column ∧ (above.head?.getD .none).narrow < i.narrow ∧
        above' = i :: above) ∨
      (above' = above.dropWhile (fun j => i.column < j.column) ∧ i = above'.head?.getD .none) := by
  unfold Indent.settle at h
  dsimp only at h
  split at h
  · next hc =>
    split at h
    · cases h
    · next hn => exact Or.inl ⟨hc, by omega, (Except.ok.inj h).symm⟩
  · split at h
    · cases h
    next hc =>
    split at h
    · cases h
    next hn =>
    cases h
    generalize (List.dropWhile _ above).head?.getD Indent.none = top at hc hn
    obtain ⟨column, narrow⟩ := i
    simp only [ne_eq, Decidable.not_not] at hc hn
    exact Or.inr ⟨rfl, by rw [hc, hn]⟩

/-- What a line does to the margin. -/
theorem settle_nil {i : Indent} {above : List Indent} (h : Indent.settle [] i = .ok above) :
    (above = [] ∧ i = .none) ∨ (above = [i] ∧ i.IsDeep) := by
  rcases settle_cases h with ⟨hc, hn, rfl⟩ | ⟨rfl, hi⟩
  · exact Or.inr ⟨rfl, hc, hn⟩
  · exact Or.inl ⟨rfl, hi⟩

/-- What a line does to one indentation. -/
theorem settle_one {i j : Indent} {above : List Indent} (h : Indent.settle [i] j = .ok above) :
    above = [j, i] ∨ (above = [i] ∧ j = i) ∨ (above = [] ∧ j = .none) := by
  rcases settle_cases h with ⟨-, -, rfl⟩ | ⟨rfl, hj⟩
  · exact Or.inl rfl
  · right
    by_cases hc : j.column < i.column
    · rw [List.dropWhile_cons_of_pos (by simpa using hc)] at hj ⊢
      exact Or.inr ⟨rfl, hj⟩
    · rw [List.dropWhile_cons_of_neg (by simpa using hc)] at hj ⊢
      exact Or.inl ⟨rfl, hj⟩

/-- **What a line does to a stage** follows from its own indentation. -/
theorem Stage.step {b : Block} {above above' : List Indent} {i : Indent} (hb : Stage b above)
    (hs : Indent.settle above i = .ok above') (hr : b.refuses? above'.length = none) :
    (above' = [] ∧ i = .none) ∨ (above' = [i] ∧ i.IsDeep) := by
  cases hb with
  | outside => exact settle_nil hs
  | begun n => exact settle_nil hs
  | inside h =>
    rcases settle_one hs with rfl | ⟨rfl, rfl⟩ | h'
    · cases hr
    · exact Or.inr ⟨rfl, h⟩
    · exact Or.inl h'

/-- The stage after a line. -/
theorem Stage.after {b : Block} {above above' : List Indent} {i : Indent} (hb : Stage b above)
    (hs : Indent.settle above i = .ok above') (hr : b.refuses? above'.length = none) :
    above' = [] ∨ (above'.length ≠ 0 ∧ Stage .inside above') := by
  rcases hb.step hs hr with ⟨rfl, -⟩ | ⟨rfl, hi⟩
  · exact Or.inl rfl
  · exact Or.inr ⟨by simp, .inside hi⟩

/-- A line is as deep in one block as in another one. -/
theorem Stage.agree {b c : Block} {above above' below below' : List Indent} {i : Indent}
    (hb : Stage b above) (hc : Stage c below) (hs : Indent.settle above i = .ok above')
    (hs' : Indent.settle below i = .ok below') (hr : b.refuses? above'.length = none)
    (hr' : c.refuses? below'.length = none) : above' = below' := by
  have hnone : ¬ Indent.none.IsDeep := fun h => absurd h.column (by decide)
  rcases hb.step hs hr with ⟨rfl, rfl⟩ | ⟨rfl, hi⟩
  · rcases hc.step hs' hr' with ⟨rfl, -⟩ | ⟨-, hi⟩
    · rfl
    · exact absurd hi hnone
  · rcases hc.step hs' hr' with ⟨-, rfl⟩ | ⟨rfl, -⟩
    · exact absurd hi hnone
    · rfl

end Program

end Marginalia
