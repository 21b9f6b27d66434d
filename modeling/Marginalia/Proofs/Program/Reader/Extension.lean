import Mathlib.Data.List.Basic
import Marginalia.Proofs.Program.Reader.Consumption

/-!
# Readers in front of more tokens

An expression that tokens start with is read in the same way with more steps, and in front of a mark
that no expression goes on with.

## Main definitions

* `Program.Stops`: tokens that no expression goes on with

## Main results

* `Program.readersExtend`: readers with more steps and in front of more tokens
* `Program.readExpr_of_expr?`: an expression that tokens are is read in front of more tokens
-/

namespace Marginalia

namespace Program

/-- Tokens that no expression goes on with: none at all, or a mark that ends an expression. -/
def Stops (x : List Token) : Prop :=
  ∀ t, x.head? = some t → ∃ c ∈ [',', ')', ']', ':', '\x7d'], t = .mark c

theorem stops_nil : Stops [] := fun _ h => by cases h

theorem stops_cons {c : Char} (h : c ∈ [',', ')', ']', ':', '\x7d']) (r : List Token) :
    Stops (.mark c :: r) := by
  rintro t ⟨⟩
  exact ⟨c, h, rfl⟩

variable {x ts rest : List Token} {fuel k : Nat}

/-- Tokens that stop are empty or start with a mark that ends an expression. -/
theorem Stops.cases (hx : Stops x) :
    x = [] ∨ ∃ c r, c ∈ [',', ')', ']', ':', '\x7d'] ∧ x = .mark c :: r := by
  cases x with
  | nil => exact Or.inl rfl
  | cons t r =>
    obtain ⟨c, hc, rfl⟩ := hx t rfl
    exact Or.inr ⟨c, r, hc, rfl⟩

section Head

variable {p : Token → Prop}

/-- What holds of the marks that end an expression holds of the first of tokens that stop. -/
theorem Stops.forall_head? (hx : Stops x) (hp : ∀ c ∈ [',', ')', ']', ':', '\x7d'], p (.mark c)) :
    ∀ t ∈ x.head?, p t := by
  intro t ht
  obtain ⟨c, hc, rfl⟩ := hx t ht
  exact hp c hc

theorem Stops.forall_head?_append (hx : Stops x)
    (hp : ∀ c ∈ [',', ')', ']', ':', '\x7d'], p (.mark c)) (h : ∀ t ∈ ts.head?, p t) :
    ∀ t ∈ (ts ++ x).head?, p t := by
  cases ts with
  | nil => exact hx.forall_head? hp
  | cons t ts => exact h

end Head

/-- No operator ends an expression. -/
theorem additive?_eq_none (c : Char) (h : c ∈ [',', ')', ']', ':', '\x7d']) (d : Char)
    (hd : Token.mark c = .mark d) : additive? d = none := by
  obtain rfl := Token.mark.inj hd
  exact (by decide : ∀ c ∈ _, additive? c = none) c h

/-! ## Literals of several tokens -/

theorem readTexts_append (hx : Stops x) (ts : List Token) :
    readTexts (ts ++ x) = ((readTexts ts).1, (readTexts ts).2 ++ x) := by
  fun_induction readTexts ts with
  | case1 s rest t rest' h ih =>
    rw [h] at ih
    rw [List.cons_append, readTexts, ih]
  | case2 ts hne =>
    cases ts with
    | nil =>
      obtain rfl | ⟨c, r, -, rfl⟩ := hx.cases
      · rfl
      · rfl
    | cons t ts =>
      rw [List.cons_append, readTexts]
      intro s r h
      exact hne s ts (by rw [(List.cons.inj h).1])

theorem readByteStrings_append (hx : Stops x) (ts : List Token) :
    readByteStrings (ts ++ x) = ((readByteStrings ts).1, (readByteStrings ts).2 ++ x) := by
  fun_induction readByteStrings ts with
  | case1 s rest t rest' h ih =>
    rw [h] at ih
    rw [List.cons_append, readByteStrings, ih]
  | case2 ts hne =>
    cases ts with
    | nil =>
      obtain rfl | ⟨c, r, -, rfl⟩ := hx.cases
      · rfl
      · rfl
    | cons t ts =>
      rw [List.cons_append, readByteStrings]
      intro s r h
      exact hne s ts (by rw [(List.cons.inj h).1])

theorem place?_append {i : Int} (h : place? ts = some (i, rest)) (x : List Token) :
    place? (ts ++ x) = some (i, rest ++ x) := by
  unfold place? at h
  split at h
  · next j r hi =>
    cases h
    unfold integer? at hi
    split at hi
    · cases hi
      rfl
    · cases hi
      rfl
    · cases hi
  · cases h

/-! ## The readers -/

/-- What the readers of expressions read in some steps, with more steps and in front of `x`. -/
structure ReadersExtend (x : List Token) (fuel : Nat) : Prop where
  expr {ts rest : List Token} {e : Expr} (h : readExpr fuel ts = some (e, rest)) (k : Nat) :
    readExpr (fuel + k) (ts ++ x) = some (e, rest ++ x)
  sum {left e : Expr} {ts rest : List Token} (h : readSum fuel left ts = some (e, rest))
    (k : Nat) : readSum (fuel + k) left (ts ++ x) = some (e, rest ++ x)
  product {ts rest : List Token} {e : Expr} (h : readProduct fuel ts = some (e, rest)) (k : Nat) :
    readProduct (fuel + k) (ts ++ x) = some (e, rest ++ x)
  factors {left e : Expr} {ts rest : List Token} (h : readFactors fuel left ts = some (e, rest))
    (k : Nat) : readFactors (fuel + k) left (ts ++ x) = some (e, rest ++ x)
  factor {ts rest : List Token} {e : Expr} (h : readFactor fuel ts = some (e, rest)) (k : Nat) :
    readFactor (fuel + k) (ts ++ x) = some (e, rest ++ x)
  places {e e' : Expr} {ts rest : List Token} (h : readPlaces fuel e ts = some (e', rest))
    (k : Nat) : readPlaces (fuel + k) e (ts ++ x) = some (e', rest ++ x)
  atom {ts rest : List Token} {e : Expr} (h : readAtom fuel ts = some (e, rest)) (k : Nat) :
    readAtom (fuel + k) (ts ++ x) = some (e, rest ++ x)
  items {close : Char} {ts rest : List Token} {es : List Expr} {comma : Bool}
    (h : readItems close fuel ts = some (es, comma, rest)) (k : Nat) :
    readItems close (fuel + k) (ts ++ x) = some (es, comma, rest ++ x)
  value {key : Expr} {ts rest : List Token} {entries : List (Expr × Expr)}
    (h : readValue fuel key ts = some (entries, rest)) (k : Nat) :
    readValue (fuel + k) key (ts ++ x) = some (entries, rest ++ x)

section Step

variable {e : Expr}

/-- A step more comes in front. -/
theorem add_succ_steps (fuel k : Nat) : fuel + 1 + k = fuel + k + 1 := by omega

theorem readSum_stop {left : Expr} (hx : Stops x) : readSum (fuel + 1) left x = some (left, x) :=
  readSum_eq_some_iff.mpr (.stop (hx.forall_head? additive?_eq_none))

theorem readFactors_stop {left : Expr} (hx : Stops x) :
    readFactors (fuel + 1) left x = some (left, x) :=
  readFactors_eq_some_iff.mpr (.stop (hx.forall_head? (by simp)))

theorem readPlaces_stop (hx : Stops x) : readPlaces (fuel + 1) e x = some (e, x) :=
  readPlaces_eq_some_iff.mpr (.stop (hx.forall_head? (by simp)))

theorem extend_expr (ih : ReadersExtend x fuel) (h : readExpr (fuel + 1) ts = some (e, rest))
    (k : Nat) : readExpr (fuel + 1 + k) (ts ++ x) = some (e, rest ++ x) := by
  obtain ⟨left, mid, hp, hs⟩ := readExpr_eq_some_iff.mp h
  rw [add_succ_steps, readExpr_eq_some_iff]
  exact ⟨left, mid ++ x, ih.product hp k, ih.sum hs k⟩

theorem extend_sum (hx : Stops x) (ih : ReadersExtend x fuel) {left : Expr}
    (h : readSum (fuel + 1) left ts = some (e, rest)) (k : Nat) :
    readSum (fuel + 1 + k) left (ts ++ x) = some (e, rest ++ x) := by
  rw [add_succ_steps, readSum_eq_some_iff]
  cases readSum_eq_some_iff.mp h with
  | stop hstop => exact .stop (hx.forall_head?_append additive?_eq_none hstop)
  | more hop hp hs => exact .more hop (ih.product hp k) (ih.sum hs k)

theorem extend_product (ih : ReadersExtend x fuel)
    (h : readProduct (fuel + 1) ts = some (e, rest)) (k : Nat) :
    readProduct (fuel + 1 + k) (ts ++ x) = some (e, rest ++ x) := by
  obtain ⟨left, mid, hf, hs⟩ := readProduct_eq_some_iff.mp h
  rw [add_succ_steps, readProduct_eq_some_iff]
  exact ⟨left, mid ++ x, ih.factor hf k, ih.factors hs k⟩

theorem extend_factors (hx : Stops x) (ih : ReadersExtend x fuel) {left : Expr}
    (h : readFactors (fuel + 1) left ts = some (e, rest)) (k : Nat) :
    readFactors (fuel + 1 + k) left (ts ++ x) = some (e, rest ++ x) := by
  rw [add_succ_steps, readFactors_eq_some_iff]
  cases readFactors_eq_some_iff.mp h with
  | stop hstop => exact .stop (hx.forall_head?_append (by simp) hstop)
  | more hf hs => exact .more (ih.factor hf k) (ih.factors hs k)

theorem extend_factor (ih : ReadersExtend x fuel)
    (h : readFactor (fuel + 1) ts = some (e, rest)) (k : Nat) :
    readFactor (fuel + 1 + k) (ts ++ x) = some (e, rest ++ x) := by
  rw [add_succ_steps, readFactor_eq_some_iff]
  cases readFactor_eq_some_iff.mp h with
  | minus hf => exact .minus (ih.factor hf k)
  | plus hf => exact .plus (ih.factor hf k)
  | atom hsign ha hp =>
    refine .atom ?_ (ih.atom ha k) (ih.places hp k)
    rwa [List.head?_append_of_ne_nil _ (ne_nil_of_readAtom ha)]

theorem extend_places (hx : Stops x) (ih : ReadersExtend x fuel) {e' : Expr}
    (h : readPlaces (fuel + 1) e ts = some (e', rest)) (k : Nat) :
    readPlaces (fuel + 1 + k) e (ts ++ x) = some (e', rest ++ x) := by
  rw [add_succ_steps, readPlaces_eq_some_iff]
  cases readPlaces_eq_some_iff.mp h with
  | stop hstop => exact .stop (hx.forall_head?_append (by simp) hstop)
  | more he hi hp => exact .more he (place?_append hi x) (ih.places hp k)

theorem extend_items (ih : ReadersExtend x fuel) {close : Char} {es : List Expr} {comma : Bool}
    (h : readItems close (fuel + 1) ts = some (es, comma, rest)) (k : Nat) :
    readItems close (fuel + 1 + k) (ts ++ x) = some (es, comma, rest ++ x) := by
  rw [add_succ_steps, readItems_eq_some_iff]
  cases readItems_eq_some_iff.mp h with
  | close => exact .close (rest ++ x)
  | last hhead hc he =>
    refine .last ?_ hc (ih.expr he k)
    rwa [List.head?_append_of_ne_nil _ (ne_nil_of_readExpr he)]
  | more hhead he hi =>
    refine .more ?_ (ih.expr he k) (ih.items hi k)
    rwa [List.head?_append_of_ne_nil _ (ne_nil_of_readExpr he)]

theorem extend_value (ih : ReadersExtend x fuel) {key : Expr} {entries : List (Expr × Expr)}
    (h : readValue (fuel + 1) key ts = some (entries, rest)) (k : Nat) :
    readValue (fuel + 1 + k) key (ts ++ x) = some (entries, rest ++ x) := by
  rw [add_succ_steps, readValue_eq_some_iff]
  cases readValue_eq_some_iff.mp h with
  | last he => exact .last (ih.expr he k)
  | trailing he => exact .trailing (ih.expr he k)
  | more he hk hv => exact .more (ih.expr he k) (ih.expr hk k) (ih.value hv k)

theorem extend_atom (ih : ReadersExtend x fuel) (hx : Stops x)
    (h : readAtom (fuel + 1) ts = some (e, rest)) (k : Nat) :
    readAtom (fuel + 1 + k) (ts ++ x) = some (e, rest ++ x) := by
  rw [add_succ_steps, readAtom_eq_some_iff]
  cases readAtom_eq_some_iff.mp h with
  | emptySet => exact .emptySet (rest ++ x)
  | name n hparen => exact .name n (hx.forall_head?_append (by simp) hparen)
  | constant hv => exact .constant hv (rest ++ x)
  | numeral i => exact .numeral i (rest ++ x)
  | decimal d => exact .decimal d (rest ++ x)
  | text s r =>
    have hstep : AtomStep (fuel + k) (.text s :: (r ++ x)) _ _ := .text s (r ++ x)
    rwa [readTexts_append hx] at hstep
  | bytes s r =>
    have hstep : AtomStep (fuel + k) (.bytes s :: (r ++ x)) _ _ := .bytes s (r ++ x)
    rwa [readByteStrings_append hx] at hstep
  | list hi => exact .list (ih.items hi k)
  | group hi => exact .group (ih.items hi k)
  | emptyDict => exact .emptyDict (rest ++ x)
  | dict hk hv => exact .dict (ih.expr hk k) (ih.value hv k)
  | set hk hi => exact .set (ih.expr hk k) (ih.items hi k)
  | singleton hk => exact .singleton (ih.expr hk k)

end Step

/-- **Readers with more steps and in front of more tokens**, by induction on their steps. -/
theorem readersExtend (hx : Stops x) (fuel : Nat) : ReadersExtend x fuel := by
  induction fuel with
  | zero =>
    exact {
      expr := fun h => by cases h
      sum := fun h => by cases h
      product := fun h => by cases h
      factors := fun h => by cases h
      factor := fun h => by cases h
      places := fun h => by cases h
      atom := fun h => by cases h
      items := fun h => by cases h
      value := fun h => by cases h }
  | succ fuel ih =>
    exact {
      expr := extend_expr ih
      sum := extend_sum hx ih
      product := extend_product ih
      factors := extend_factors hx ih
      factor := extend_factor ih
      places := extend_places hx ih
      atom := extend_atom ih hx
      items := extend_items ih
      value := extend_value ih }

theorem expr?_eq_some {e : Expr} (h : expr? ts = some e) :
    readExpr (enough ts) ts = some (e, []) := by
  unfold expr? at h
  split at h
  · next hr => rw [hr, Option.some.inj h]
  · cases h

/-- **An expression that tokens are is read in front of more tokens**, with steps as many as are
enough for the tokens, or more. -/
theorem readExpr_of_expr? {e : Expr} (h : expr? ts = some e) (hx : Stops x)
    (hf : enough ts ≤ fuel) : readExpr fuel (ts ++ x) = some (e, x) := by
  obtain ⟨k, rfl⟩ := Nat.exists_eq_add_of_le hf
  exact (readersExtend hx _).expr (expr?_eq_some h) k

end Program

end Marginalia
