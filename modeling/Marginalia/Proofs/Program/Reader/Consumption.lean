import Marginalia.Program.Reader
import Marginalia.Proofs.Program.Lexing
import Marginalia.Proofs.Program.Reader.Step

/-!
# What readers of expressions consume

An expression closes the brackets that it opens, and it holds neither a semicolon nor a number sign.

## Main definitions

* `Program.Closes`: tokens that close the brackets that they open
* `Program.Consumes`: what a reader has consumed, inside a bracket or not

## Main results

* `Program.readersConsume`: what the readers of expressions consume
-/

namespace Marginalia

namespace Program

/-- The open brackets behind a bracket that a reader has passed. -/
def enter : Option Char → Nat → Nesting → Nesting
  | none, _, opened => opened
  | some c, n, opened => (c, n) :: opened

/-- The tokens close the brackets that they open, and the bracket that they stand in. -/
def Closes (o : Option Char) (ts : List Token) : Prop :=
  ∀ line n opened, (enter o n opened).afterAll line ts = .ok opened

namespace Closes

variable {o : Option Char} {t : Token} {ts us : List Token}

theorem nil : Closes none [] := fun _ _ _ => rfl

theorem append (h : Closes none ts) (h' : Closes o us) : Closes o (ts ++ us) := by
  intro line n opened
  rw [afterAll_append, show (enter o n opened).afterAll line ts = .ok (enter o n opened) from
    h line n _]
  exact h' line n opened

/-- A token that leads from one bracket into another one. -/
theorem cons {b : Option Char}
    (ht : ∀ line n opened, ∃ m, (enter o n opened).after line t = .ok (enter b m opened))
    (h : Closes b ts) : Closes o (t :: ts) := by
  intro line n opened
  obtain ⟨m, hm⟩ := ht line n opened
  rw [Nesting.afterAll, hm]
  exact h line m opened

end Closes

/-- Neither a semicolon nor a number sign. -/
def Token.IsQuiet (t : Token) : Prop := t ≠ .mark ';' ∧ t ≠ .mark '#'

theorem Token.isQuiet {t : Token} (h : ∀ c, t ≠ .mark c) : t.IsQuiet := ⟨h _, h _⟩

theorem isQuiet_mark {c : Char} (h : c ≠ ';' ∧ c ≠ '#') : (Token.mark c).IsQuiet :=
  ⟨fun hc => h.1 (Token.mark.inj hc), fun hc => h.2 (Token.mark.inj hc)⟩

/-- A reader that stands in the bracket has consumed the tokens in front of a rest. -/
def Consumes (o : Option Char) (ts rest : List Token) : Prop :=
  ∃ used, ts = used ++ rest ∧ Closes o used ∧ ∀ t ∈ used, t.IsQuiet

namespace Consumes

variable {o : Option Char} {c : Char} {ts mid rest : List Token} {t : Token}

theorem refl (ts : List Token) : Consumes none ts ts := ⟨[], rfl, .nil, by simp⟩

/-- What has been consumed is consumed in two steps. -/
theorem trans (h : Consumes none ts mid) (h' : Consumes o mid rest) : Consumes o ts rest := by
  obtain ⟨used, rfl, hclose, hquiet⟩ := h
  obtain ⟨used', rfl, hclose', hquiet'⟩ := h'
  refine ⟨used ++ used', by simp, hclose.append hclose', fun t ht => ?_⟩
  exact (List.mem_append.mp ht).elim (hquiet t) (hquiet' t)

/-- One token in front of what stands in the bracket that it opens, or of nothing. -/
theorem cons {b : Option Char} (hq : t.IsQuiet)
    (ht : ∀ line n opened, ∃ m, (enter o n opened).after line t = .ok (enter b m opened))
    (h : Consumes b mid rest) : Consumes o (t :: mid) rest := by
  obtain ⟨used, rfl, hclose, hquiet⟩ := h
  exact ⟨t :: used, rfl, .cons ht hclose, List.forall_mem_cons.mpr ⟨hq, hquiet⟩⟩

/-- A token that is no bracket. -/
theorem single (hq : t.IsQuiet) (ht : ∀ line opened, Nesting.after opened line t = .ok opened) :
    Consumes none (t :: rest) rest :=
  cons (b := none) hq (fun line n opened => ⟨n, ht line opened⟩) (refl rest)

/-- A bracket and what stands in it. -/
theorem opening {close : Char} (hc : closing? c = some close) (h : Consumes (some c) mid rest) :
    Consumes none (.mark c :: mid) rest := by
  refine cons ?_ (fun line n opened => ⟨line, ?_⟩) h
  · constructor <;> (rintro ⟨⟩; cases hc)
  · simp [enter, Nesting.after, hc]

/-- The bracket that closes the one a reader stands in. -/
theorem closing {close : Char} (hc : closing? c = some close) :
    Consumes (some c) (.mark close :: rest) rest := by
  have hclose : close ∈ [')', ']', '\x7d'] := by
    unfold closing? at hc
    split_ifs at hc <;> cases hc <;> decide
  have hnone : closing? close = none := (by decide : ∀ d ∈ _, closing? d = none) close hclose
  have hclosing : isClosing close = true := (by decide : ∀ d ∈ _, isClosing d = true) close hclose
  refine cons (b := none) ?_ (fun line n opened => ⟨n, ?_⟩) (refl rest)
  · constructor <;> (rintro ⟨⟩; cases hclosing)
  · simp [enter, Nesting.after, hnone, hclosing, hc]

/-- A mark that is no bracket. -/
theorem mark (hq : c ≠ ';' ∧ c ≠ '#') (ho : closing? c = none) (hc : isClosing c = false) :
    Consumes none (.mark c :: rest) rest :=
  single (isQuiet_mark hq) fun line opened => by simp [Nesting.after, ho, hc]

/-- A mark of an operator, or a sign. -/
theorem operator (h : c ∈ ['+', '-', '*']) : Consumes none (.mark c :: rest) rest := by
  refine mark ?_ ?_ ?_
  · exact (by decide : ∀ d ∈ _, d ≠ ';' ∧ d ≠ '#') c h
  · exact (by decide : ∀ d ∈ _, closing? d = none) c h
  · exact (by decide : ∀ d ∈ _, isClosing d = false) c h

theorem comma : Consumes none (.mark ',' :: rest) rest := mark (by decide) (by decide) (by decide)

theorem colon : Consumes none (.mark ':' :: rest) rest := mark (by decide) (by decide) (by decide)

/-- What has been consumed where nothing is left. -/
theorem closes (h : Consumes o ts []) : Closes o ts := by
  obtain ⟨used, rfl, hclose, -⟩ := h
  rwa [List.append_nil]

theorem isQuiet (h : Consumes o ts []) : ∀ t ∈ ts, t.IsQuiet := by
  obtain ⟨used, rfl, -, hquiet⟩ := h
  rwa [List.append_nil]

/-- What has been consumed may stand in front of anything. -/
theorem append_right (h : Consumes o ts []) (r : List Token) : Consumes o (ts ++ r) r :=
  ⟨ts, rfl, h.closes, h.isQuiet⟩

/-- A token that is no mark. -/
theorem plain (h : ∀ c, t ≠ .mark c) : Consumes none (t :: rest) rest := by
  refine single (Token.isQuiet h) fun line opened => ?_
  cases t with
  | mark c => exact absurd rfl (h c)
  | _ => rfl

end Consumes

/-! ## Literals of several tokens -/

theorem consumes_readTexts (ts : List Token) : Consumes none ts (readTexts ts).2 := by
  fun_induction readTexts ts with
  | case1 s rest t rest' h ih =>
    rw [h] at ih
    exact (Consumes.plain (by simp)).trans ih
  | case2 => exact .refl _

theorem consumes_readByteStrings (ts : List Token) : Consumes none ts (readByteStrings ts).2 := by
  fun_induction readByteStrings ts with
  | case1 s rest t rest' h ih =>
    rw [h] at ih
    exact (Consumes.plain (by simp)).trans ih
  | case2 => exact .refl _

theorem consumes_place? {ts rest : List Token} {i : Int} (h : place? ts = some (i, rest)) :
    Consumes (some '[') ts rest := by
  unfold place? at h
  split at h
  · next j r hi =>
    cases h
    have hclose : Consumes (some '[') (.mark ']' :: rest) rest := .closing rfl
    unfold integer? at hi
    split at hi
    · cases hi
      exact (Consumes.plain (by simp)).trans hclose
    · cases hi
      have hminus : ∀ r, Consumes none (.mark '-' :: r) r := fun r => .operator (by decide)
      exact ((hminus _).trans (.plain (by simp))).trans hclose
    · cases hi
  · cases h

/-! ## The readers -/

theorem mem_of_additive? {c : Char} {op : Operator} (h : additive? c = some op) :
    c ∈ ['+', '-', '*'] := by
  unfold additive? at h
  split_ifs at h with hplus hminus
  · simp [hplus]
  · simp [hminus]

/-- What the readers of expressions consume in some steps. -/
structure ReadersConsume (fuel : Nat) : Prop where
  expr {ts rest : List Token} {e : Expr} (h : readExpr fuel ts = some (e, rest)) :
    Consumes none ts rest
  sum {left e : Expr} {ts rest : List Token} (h : readSum fuel left ts = some (e, rest)) :
    Consumes none ts rest
  product {ts rest : List Token} {e : Expr} (h : readProduct fuel ts = some (e, rest)) :
    Consumes none ts rest
  factors {left e : Expr} {ts rest : List Token} (h : readFactors fuel left ts = some (e, rest)) :
    Consumes none ts rest
  factor {ts rest : List Token} {e : Expr} (h : readFactor fuel ts = some (e, rest)) :
    Consumes none ts rest
  places {e e' : Expr} {ts rest : List Token} (h : readPlaces fuel e ts = some (e', rest)) :
    Consumes none ts rest
  atom {ts rest : List Token} {e : Expr} (h : readAtom fuel ts = some (e, rest)) :
    Consumes none ts rest
  items {o close : Char} {ts rest : List Token} {es : List Expr} {comma : Bool}
    (hc : closing? o = some close) (h : readItems close fuel ts = some (es, comma, rest)) :
    Consumes (some o) ts rest
  value {key : Expr} {ts rest : List Token} {entries : List (Expr × Expr)}
    (h : readValue fuel key ts = some (entries, rest)) : Consumes (some '\x7b') ts rest

section Step

variable {fuel : Nat} {ts rest : List Token} {e : Expr}

theorem consumes_expr (ih : ReadersConsume fuel) (h : readExpr (fuel + 1) ts = some (e, rest)) :
    Consumes none ts rest := by
  obtain ⟨left, mid, hp, hs⟩ := readExpr_eq_some_iff.mp h
  exact (ih.product hp).trans (ih.sum hs)

theorem consumes_sum (ih : ReadersConsume fuel) {left : Expr}
    (h : readSum (fuel + 1) left ts = some (e, rest)) : Consumes none ts rest := by
  cases readSum_eq_some_iff.mp h with
  | stop => exact .refl _
  | more hop hp hs =>
    exact ((Consumes.operator (mem_of_additive? hop)).trans (ih.product hp)).trans (ih.sum hs)

theorem consumes_product (ih : ReadersConsume fuel)
    (h : readProduct (fuel + 1) ts = some (e, rest)) : Consumes none ts rest := by
  obtain ⟨left, mid, hf, hs⟩ := readProduct_eq_some_iff.mp h
  exact (ih.factor hf).trans (ih.factors hs)

theorem consumes_factors (ih : ReadersConsume fuel) {left : Expr}
    (h : readFactors (fuel + 1) left ts = some (e, rest)) : Consumes none ts rest := by
  cases readFactors_eq_some_iff.mp h with
  | stop => exact .refl _
  | more hf hs =>
    exact ((Consumes.operator (by decide)).trans (ih.factor hf)).trans (ih.factors hs)

theorem consumes_factor (ih : ReadersConsume fuel)
    (h : readFactor (fuel + 1) ts = some (e, rest)) : Consumes none ts rest := by
  cases readFactor_eq_some_iff.mp h with
  | minus hf => exact (Consumes.operator (by decide)).trans (ih.factor hf)
  | plus hf => exact (Consumes.operator (by decide)).trans (ih.factor hf)
  | atom _ ha hp => exact (ih.atom ha).trans (ih.places hp)

theorem consumes_places (ih : ReadersConsume fuel) {e' : Expr}
    (h : readPlaces (fuel + 1) e ts = some (e', rest)) : Consumes none ts rest := by
  cases readPlaces_eq_some_iff.mp h with
  | stop => exact .refl _
  | more _ hi hp => exact (Consumes.opening rfl (consumes_place? hi)).trans (ih.places hp)

theorem consumes_items (ih : ReadersConsume fuel) {o close : Char} {es : List Expr} {comma : Bool}
    (hc : closing? o = some close)
    (h : readItems close (fuel + 1) ts = some (es, comma, rest)) : Consumes (some o) ts rest := by
  cases readItems_eq_some_iff.mp h with
  | close => exact .closing hc
  | last _ _ he => exact (ih.expr he).trans (.closing hc)
  | more _ he hi => exact ((ih.expr he).trans .comma).trans (ih.items hc hi)

theorem consumes_value (ih : ReadersConsume fuel) {key : Expr} {entries : List (Expr × Expr)}
    (h : readValue (fuel + 1) key ts = some (entries, rest)) :
    Consumes (some '\x7b') ts rest := by
  cases readValue_eq_some_iff.mp h with
  | last he => exact (ih.expr he).trans (.closing rfl)
  | trailing he => exact ((ih.expr he).trans .comma).trans (.closing rfl)
  | more he hk hv =>
    exact ((((ih.expr he).trans .comma).trans (ih.expr hk)).trans .colon).trans (ih.value hv)

theorem consumes_atom (ih : ReadersConsume fuel) (h : readAtom (fuel + 1) ts = some (e, rest)) :
    Consumes none ts rest := by
  cases readAtom_eq_some_iff.mp h with
  | emptySet =>
    exact (Consumes.plain (t := .name setWord) (by simp)).trans (.opening rfl (.closing rfl))
  | name n _ => exact .plain (by simp)
  | constant => exact .plain (by simp)
  | numeral => exact .plain (by simp)
  | decimal => exact .plain (by simp)
  | text s r =>
    exact (Consumes.plain (by simp)).trans (consumes_readTexts r)
  | bytes s r =>
    exact (Consumes.plain (by simp)).trans (consumes_readByteStrings r)
  | list hi => exact .opening rfl (ih.items rfl hi)
  | group hi => exact .opening rfl (ih.items rfl hi)
  | emptyDict => exact .opening rfl (.closing rfl)
  | dict hk hv => exact .opening rfl (((ih.expr hk).trans .colon).trans (ih.value hv))
  | set hk hi => exact .opening rfl (((ih.expr hk).trans .comma).trans (ih.items rfl hi))
  | singleton hk => exact .opening rfl ((ih.expr hk).trans (.closing rfl))

end Step

/-- **What the readers of expressions consume**, by induction on their steps. -/
theorem readersConsume (fuel : Nat) : ReadersConsume fuel := by
  induction fuel with
  | zero =>
    exact {
      expr := fun h => by cases h
      sum := fun h => by cases h
      product := fun h => by cases h
      factors := fun h => by cases h
      factor := fun h => by cases h
      places := fun h => by cases h
      atom := fun h => by cases h
      items := fun _ h => by cases h
      value := fun h => by cases h }
  | succ fuel ih =>
    exact {
      expr := consumes_expr ih
      sum := consumes_sum ih
      product := consumes_product ih
      factors := consumes_factors ih
      factor := consumes_factor ih
      places := consumes_places ih
      atom := consumes_atom ih
      items := consumes_items ih
      value := consumes_value ih }

end Program

end Marginalia
