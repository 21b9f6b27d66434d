import Marginalia.Proofs.Program.Gathering
import Marginalia.Proofs.Text.Normal
import Marginalia.Trace
import Mathlib.Data.List.TakeWhile

/-!
# The code of a program

A program has code of its own and the code of its functions. Each statement stands on its line, and the name of a function is a word, so that a call in progress shows the name of its function.

## Main definitions

* `Program.IsCode`: the parts of a program that are run one after another
* `Program.StandsOn`: the line that a statement stands on

## Main results

* `Program.standsOn_of_items`: a statement of a program stands on its line
* `Program.isBindable_of_items`: the names of a program may be bound
* `Program.routine_of_items`: a call in progress shows the name of its function
-/

namespace Marginalia

theorem Text.afterLast_of_notMem {sep : Char} {s : Text} (h : sep ∉ s) : s.afterLast sep = s := by
  have hall : ∀ c ∈ s.reverse, (c != sep) = true := by
    intro c hc
    rw [bne_iff_ne]
    rintro rfl
    exact h (List.mem_reverse.mp hc)
  rw [afterLast, List.takeWhile_eq_self_iff.mpr hall, List.reverse_reverse]

namespace Program

variable {number : Nat} {opened opened' : Nesting} {raws : List Text} {gs : List Said}
  {ts : List Token} {n : Text}

/-! ## Words -/

theorem based_ne_name (base : Nat) (kind ds n : Text) : based base kind ds ≠ .ok (.name n) := by
  intro h
  unfold based at h
  dsimp only at h
  split at h <;> cases h

/-- A numeral is no name. -/
theorem numeral_ne_name (run n : Text) : numeral run ≠ .ok (.name n) := by
  have hplain : numeral.plain run ≠ .ok (.name n) := by
    intro h
    unfold numeral.plain whole at h
    split at h
    · cases h
    · split at h
      · dsimp only at h
        split at h
        · cases h
        · split at h <;> cases h
      · split at h <;> cases h
  intro h
  unfold numeral at h
  split at h
  · split at h
    · exact based_ne_name _ _ _ n h
    split at h
    · exact based_ne_name _ _ _ n h
    split at h
    · exact based_ne_name _ _ _ n h
    · exact hplain h
  · exact hplain h

theorem name_of_wordStep {s r rest : Text} (h : WordStep s r (.name n) rest) : n = s.normal := by
  generalize ht : Token.name n = t at h
  cases h with
  | word =>
    unfold word at ht
    split at ht
    · cases ht
    · exact Token.name.inj ht
  | bytes => cases ht
  | text => cases ht

/-- The characters of a name are no marks of ASCII. -/
theorem isPlain_of_next {c : Char} {r rest : Text} (h : next c r = .ok (.name n, rest)) :
    ∀ d ∈ n, isPlain d = true := by
  cases next_eq_ok_iff.mp h with
  | numeral _ _ hnumeral => exact absurd hnumeral (numeral_ne_name _ n)
  | word _ _ hs hword =>
    obtain rfl := name_of_wordStep hword
    refine Text.isPlain_of_mem_normal (List.forall_mem_cons.mpr ⟨?_, fun d hd => ?_⟩)
    · exact isPlain_of_isNameChar (isNameChar_of_isNameStart hs)
    · exact isPlain_of_isNameChar (List.all_eq_true.mp List.all_takeWhile d hd)

/-- A token whose name, if it is one, has no marks of ASCII. -/
def Token.IsPlain (t : Token) : Prop := ∀ n, t = .name n → ∀ c ∈ n, isPlain c = true

theorem Lexes.isPlain {s rest : Text} (h : Lexes s ts rest) : ∀ t ∈ ts, t.IsPlain := by
  induction h with
  | nil => simp
  | gap _ _ ih => exact ih
  | token _ _ hnext _ ih =>
    refine List.forall_mem_cons.mpr ⟨?_, ih⟩
    rintro n rfl
    exact isPlain_of_next hnext

theorem isPlain_of_tokens {s : Text} (h : tokens number opened s = .ok (ts, opened')) :
    ∀ t ∈ ts, t.IsPlain := by
  obtain ⟨⟨rest, hlexes⟩, -⟩ := lexes_of_tokens h
  exact hlexes.isPlain

/-! ## Lines -/

/-- **What a line says** is all of the line of its number. -/
theorem Utters.exists_line {first : Nat} (h : Utters first raws gs) :
    ∀ g ∈ gs, first ≤ g.number ∧ ∃ raw, raws[g.number - first]? = some raw ∧
      tokens g.number [] raw = .ok (g.tokens, []) ∧ g.tokens ≠ [] := by
  have hmore : ∀ {n first : Nat} {raw x : Text} {rest : List Text}, first + 1 ≤ n →
      rest[n - (first + 1)]? = some x → (raw :: rest)[n - first]? = some x := by
    intro n first raw x rest hle hx
    rwa [show n - first = (n - (first + 1)) + 1 by omega, List.getElem?_cons_succ]
  induction h with
  | nil => simp
  | silent _ _ ih =>
    intro g hg
    obtain ⟨hle, x, hx, ht⟩ := ih g hg
    exact ⟨Nat.le_of_succ_le hle, x, hmore hle hx, ht⟩
  | @said n raw rest ts gs hts h _ _ ih =>
    refine List.forall_mem_cons.mpr ⟨⟨Nat.le_refl n, raw, ?_, h, hts⟩, fun g hg => ?_⟩
    · rw [Nat.sub_self]
      rfl
    · obtain ⟨hle, x, hx, ht⟩ := ih g hg
      exact ⟨Nat.le_of_succ_le hle, x, hmore hle hx, ht⟩

/-- A line is what has been said. -/
theorem exists_said_of_levels {above : List Indent} {ls : List Line}
    (h : levels above none gs = some ls) {l : Line} (hl : l ∈ ls) :
    ∃ g ∈ gs, l.number = g.number ∧ l.tokens = g.tokens := by
  induction gs generalizing above ls with
  | nil =>
    cases h
    cases hl
  | cons g gs ih =>
    obtain ⟨above', ls', -, hls, rfl⟩ := levels_cons h
    rcases List.mem_cons.mp hl with rfl | hl
    · exact ⟨g, List.mem_cons_self, rfl, rfl⟩
    · obtain ⟨g', hg, hsame⟩ := ih hls hl
      exact ⟨g', List.mem_cons_of_mem _ hg, hsame⟩

/-! ## Statements and functions -/

/-- The statements of an item. -/
def Item.statements : Item → List Placed
  | .statement s => [s]
  | .routine r => r.body

/-- Every statement of a program comes from a line. -/
theorem exists_line_of_gathers {b : Block} {ls : List Line} {body : List Placed}
    {items : List Item} (h : Gathers b ls body items) :
    ∀ s ∈ body ++ items.flatMap Item.statements,
      ∃ l ∈ ls, ∃ ss, statements? l = some ss ∧ s ∈ ss := by
  have hmore : ∀ {line : Line} {rest : List Line} {s : Placed},
      (∃ l ∈ rest, ∃ ss, statements? l = some ss ∧ s ∈ ss) →
        ∃ l ∈ line :: rest, ∃ ss, statements? l = some ss ∧ s ∈ ss := fun hs => by
    obtain ⟨l, hl, hss⟩ := hs
    exact ⟨l, List.mem_cons_of_mem _ hl, hss⟩
  induction h with
  | nil => simp
  | header hr hd hh _ ih => exact fun s hs => hmore (ih s hs)
  | @outside b line rest ss body items hr hd hh hss _ ih =>
    intro s hs
    rw [List.flatMap_append, List.flatMap_map, ← List.append_assoc] at hs
    simp only [List.mem_append, Item.statements, List.flatMap_singleton'] at hs
    rcases hs with (hs | hs) | hs
    · exact hmore (ih s (List.mem_append_left _ hs))
    · exact ⟨line, List.mem_cons_self, ss, hss, hs⟩
    · exact hmore (ih s (List.mem_append_right _ hs))
  | @inside b line rest ss body items hr hd hss _ ih =>
    intro s hs
    rw [List.append_assoc] at hs
    rcases List.mem_append.mp hs with hs | hs
    · exact ⟨line, List.mem_cons_self, ss, hss, hs⟩
    · exact hmore (ih s hs)

/-- Every function of a program comes from its first line. -/
theorem exists_header_of_gathers {b : Block} {ls : List Line} {body : List Placed}
    {items : List Item} (h : Gathers b ls body items) {r : Routine} (hr : .routine r ∈ items) :
    ∃ l ∈ ls, header? l.tokens = some (r.name, r.parameters) := by
  induction h with
  | nil => cases hr
  | header _ _ hh _ ih =>
    rcases List.mem_cons.mp hr with h | hr
    · cases h
      exact ⟨_, List.mem_cons_self, hh⟩
    · obtain ⟨l, hl, hheader⟩ := ih hr
      exact ⟨l, List.mem_cons_of_mem _ hl, hheader⟩
  | outside _ _ _ _ _ ih =>
    rcases List.mem_append.mp hr with h | hr
    · obtain ⟨s, -, hs⟩ := List.mem_map.mp h
      cases hs
    · obtain ⟨l, hl, hheader⟩ := ih hr
      exact ⟨l, List.mem_cons_of_mem _ hl, hheader⟩
  | inside _ _ _ _ ih =>
    obtain ⟨l, hl, hheader⟩ := ih hr
    exact ⟨l, List.mem_cons_of_mem _ hl, hheader⟩

theorem header?_eq_some_iff {ps : List Text} :
    header? ts = some (n, ps) ↔ ∃ rest, ts = .keyword routineWord :: .name n :: .mark '(' :: rest ∧
      parameters? rest = some ps ∧ ∀ m ∈ n :: ps, isBindable m = true := by
  constructor
  · intro h
    unfold header? at h
    split at h
    · split at h
      · next hps =>
        split at h
        · next hd =>
          obtain ⟨rfl, hall⟩ := hd
          cases h
          exact ⟨_, rfl, hps, List.all_eq_true.mp hall⟩
        · cases h
      · cases h
    · cases h
  · rintro ⟨rest, rfl, hps, hall⟩
    rw [header?, hps]
    exact if_pos ⟨rfl, List.all_eq_true.mpr hall⟩

theorem name_mem_of_header? {ps : List Text} (h : header? ts = some (n, ps)) :
    Token.name n ∈ ts := by
  obtain ⟨rest, rfl, -⟩ := header?_eq_some_iff.mp h
  simp

/-- The line that a statement stands on: the statement is one of those that all of its tokens are
read as. -/
def StandsOn (raw : Text) (s : Placed) : Prop :=
  ∃ ts depth ss, tokens s.line [] raw = .ok (ts, []) ∧ ts ≠ [] ∧
    statements? ⟨s.line, depth, ts⟩ = some ss ∧ s ∈ ss

/-- **A statement of a program stands on its line.** Lines count from one. -/
theorem standsOn_of_items {t : Text} {is : List Item} (h : items t = .ok is) :
    ∀ s ∈ is.flatMap Item.statements,
      0 < s.line ∧ ∃ raw, (t.unixLines.splitAt '\n')[s.line - 1]? = some raw ∧ StandsOn raw s := by
  obtain ⟨-, gs, ls, body, hgs, hls, hg, -⟩ := items_eq_ok_iff.mp h
  intro s hs
  obtain ⟨l, hl, ss, hss, hmem⟩ := exists_line_of_gathers hg s (List.mem_append_right _ hs)
  obtain ⟨g, hgmem, hnumber, htokens⟩ := exists_said_of_levels hls hl
  have hline : s.line = g.number := (line_of_statements? hss s hmem).trans hnumber
  obtain ⟨hpos, raw, hraw, ht, hts⟩ := hgs.exists_line g hgmem
  refine ⟨by rw [hline]; exact hpos, raw, by rwa [hline], g.tokens, l.depth, ss, by rwa [hline],
    hts, ?_, hmem⟩
  rw [hline, ← hnumber, ← htokens]
  exact hss

/-- The name of a function of a program has no marks of ASCII. -/
theorem isPlain_of_items {t : Text} {is : List Item} (h : items t = .ok is) {r : Routine}
    (hr : .routine r ∈ is) : ∀ c ∈ r.name, isPlain c = true := by
  obtain ⟨-, gs, ls, body, hgs, hls, hg, -⟩ := items_eq_ok_iff.mp h
  obtain ⟨l, hl, hheader⟩ := exists_header_of_gathers hg hr
  obtain ⟨g, hgmem, -, htokens⟩ := exists_said_of_levels hls hl
  obtain ⟨-, raw, -, ht, -⟩ := hgs.exists_line g hgmem
  have hmem : Token.name r.name ∈ g.tokens := htokens ▸ (name_mem_of_header? hheader)
  exact isPlain_of_tokens ht _ hmem _ rfl

/-! ## Names -/

/-- A statement binds a name that may be bound. -/
theorem isBindable_of_statement? {st : Statement} (h : statement? ts = some st) :
    ∀ n ∈ st.binds?, isBindable n = true := by
  intro n hn
  cases st with
  | assign m right =>
    obtain rfl := Option.some.inj hn
    unfold statement? at h
    split at h
    · cases h
    · split at h
      · cases h
      split at h
      · obtain ⟨right, -, hr⟩ := Option.map_eq_some_iff.mp h
        cases hr
      · cases h
    · next m' rest _ =>
      split at h
      · next hm =>
        obtain ⟨right, -, hr⟩ := Option.map_eq_some_iff.mp h
        cases hr
        exact hm
      · cases h
    · obtain ⟨e, -, he⟩ := Option.map_eq_some_iff.mp h
      cases he
    · unfold forgotten? at h
      split at h <;> cases h
  | _ => cases hn

/-- **The names of a program may be bound.** -/
theorem isBindable_of_items {t : Text} {is : List Item} (h : items t = .ok is) :
    (∀ s ∈ is.flatMap Item.statements, ∀ n ∈ s.statement.binds?, isBindable n = true) ∧
      ∀ r, .routine r ∈ is → ∀ n ∈ r.name :: r.parameters, isBindable n = true := by
  obtain ⟨-, gs, ls, body, -, -, hg, -⟩ := items_eq_ok_iff.mp h
  refine ⟨fun s hs => ?_, fun r hr => ?_⟩
  · obtain ⟨l, -, ss, hss, hmem⟩ := exists_line_of_gathers hg s (List.mem_append_right _ hs)
    obtain ⟨-, ts, ht⟩ := exists_of_mem_statements? hss s hmem
    exact isBindable_of_statement? ht
  · obtain ⟨l, -, hheader⟩ := exists_header_of_gathers hg hr
    obtain ⟨rest, -, -, hall⟩ := header?_eq_some_iff.mp hheader
    exact hall

/-! ## Code -/

/-- The code of a program and the code of its functions, under the name of the function if it has
one. -/
inductive IsCode (items : List Item) : Option Text → List Item → Prop
  | outside : IsCode items none items
  | inside {r : Routine} (h : .routine r ∈ items) :
    IsCode items (some r.name) (r.body.map .statement)

/-- The name of code among the calls in progress. -/
def codeName (name : Option Text) : Text := name.getD moduleCode

theorem IsCode.mem_of_statement {items code : List Item} {name : Option Text}
    (h : IsCode items name code) {s : Placed} (hs : .statement s ∈ code) :
    s ∈ items.flatMap Item.statements := by
  cases h with
  | outside => exact List.mem_flatMap.mpr ⟨_, hs, List.mem_singleton_self s⟩
  | inside hr =>
    obtain ⟨s', hs', he⟩ := List.mem_map.mp hs
    cases he
    exact List.mem_flatMap.mpr ⟨_, hr, hs'⟩

/-- **A call in progress shows the name of its function**; code outside functions has none. -/
theorem routine_of_items {t : Text} {is code : List Item} {name : Option Text}
    (h : items t = .ok is) (hc : IsCode is name code) (unit? : Option Value) (file : Text)
    (line : Int) : Frame.routine ⟨unit?, file, line, codeName name⟩ = name := by
  cases hc with
  | outside => exact if_pos rfl
  | @inside r hr =>
    have hplain := isPlain_of_items h hr
    have hpoint : '.' ∉ r.name := fun hm => absurd (hplain _ hm) (by decide)
    have hmodule : r.name ≠ moduleCode := fun he =>
      absurd (hplain '<' (he ▸ List.mem_cons_self)) (by decide)
    rw [Frame.routine, codeName, Option.getD_some, if_neg hmodule, Text.afterLast_of_notMem hpoint]

end Program

end Marginalia
