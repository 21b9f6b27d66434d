import Marginalia.Program.Reader.Expr

/-!
# Steps of readers

A reader of expressions takes one step and leaves the rest to readers with fewer steps. What one
step may be is said here once for each reader, with the case that it takes, so that a property of
all readers has one case for each of them.

## Main definitions

* `Program.SumStep`, `Program.FactorsStep`, `Program.FactorStep`, `Program.PlacesStep`,
  `Program.AtomStep`, `Program.ItemsStep`, `Program.ValueStep`: a step of a reader

## Main results

* `Program.readExpr_eq_none`: nothing is read where tokens end or close a bracket
* `Program.readAtom_eq_some_iff` and the like: a reader reads what one of its steps gives
-/

namespace Marginalia

namespace Program

variable {fuel : Nat} {ts rest : List Token} {e : Expr}

/-! ## Where nothing is read -/

/-- Tokens that start no expression: none at all, or a bracket that closes. -/
def Ends (ts : List Token) : Prop := ∀ t ∈ ts.head?, ∃ c ∈ [')', ']', '\x7d'], t = .mark c

theorem ends_nil : Ends [] := nofun

theorem ends_cons {c : Char} (h : c ∈ [')', ']', '\x7d']) (r : List Token) :
    Ends (.mark c :: r) := by
  rintro t ⟨⟩
  exact ⟨c, h, rfl⟩

theorem Ends.cases (h : Ends ts) : ts = [] ∨ ∃ c r, c ∈ [')', ']', '\x7d'] ∧ ts = .mark c :: r := by
  cases ts with
  | nil => exact Or.inl rfl
  | cons t r =>
    obtain ⟨c, hc, rfl⟩ := h t rfl
    exact Or.inr ⟨c, r, hc, rfl⟩

theorem readAtom_eq_none (h : Ends ts) (fuel : Nat) : readAtom fuel ts = none := by
  cases fuel with
  | zero => rfl
  | succ fuel =>
    obtain rfl | ⟨c, r, hc, rfl⟩ := h.cases
    · rfl
    · simp only [List.mem_cons, List.not_mem_nil, or_false] at hc
      rcases hc with rfl | rfl | rfl <;> rfl

theorem readFactor_eq_none (h : Ends ts) (fuel : Nat) : readFactor fuel ts = none := by
  cases fuel with
  | zero => rfl
  | succ fuel =>
    -- no sign closes a bracket
    have hsign : ∀ c ∈ ['-', '+'], ∀ r, ts ≠ .mark c :: r := by
      rintro c hc r rfl
      obtain ⟨d, hd, hmark⟩ := h _ rfl
      obtain rfl := Token.mark.inj hmark
      exact absurd hc ((by decide : ∀ d ∈ _, d ∉ ['-', '+']) c hd)
    rw [readFactor, readAtom_eq_none h]
    · exact fun r => hsign '-' (by decide) r
    · exact fun r => hsign '+' (by decide) r

/-- **Nothing is read where tokens end** or close a bracket. -/
theorem readExpr_eq_none (h : Ends ts) (fuel : Nat) : readExpr fuel ts = none := by
  obtain _ | _ | fuel := fuel
  · rfl
  · rfl
  · rw [readExpr, readProduct, readFactor_eq_none h]

theorem ne_nil_of_readExpr {p : Expr × List Token} (h : readExpr fuel ts = some p) : ts ≠ [] := by
  rintro rfl
  rw [readExpr_eq_none ends_nil] at h
  cases h

theorem ne_nil_of_readAtom {p : Expr × List Token} (h : readAtom fuel ts = some p) : ts ≠ [] := by
  rintro rfl
  rw [readAtom_eq_none ends_nil] at h
  cases h

/-! ## Sums and products -/

theorem readExpr_eq_some_iff : readExpr (fuel + 1) ts = some (e, rest) ↔
    ∃ left mid,
      readProduct fuel ts = some (left, mid) ∧ readSum fuel left mid = some (e, rest) := by
  rw [readExpr]
  constructor
  · intro h
    split at h
    · next hp => exact ⟨_, _, hp, h⟩
    · cases h
  · rintro ⟨left, mid, hp, hs⟩
    rw [hp]
    exact hs

theorem readProduct_eq_some_iff : readProduct (fuel + 1) ts = some (e, rest) ↔
    ∃ left mid, readFactor fuel ts = some (left, mid) ∧
      readFactors fuel left mid = some (e, rest) := by
  rw [readProduct]
  constructor
  · intro h
    split at h
    · next hf => exact ⟨_, _, hf, h⟩
    · cases h
  · rintro ⟨left, mid, hf, hs⟩
    rw [hf]
    exact hs

/-- A step of a sum: it ends, or another product follows an operator. -/
inductive SumStep (fuel : Nat) (left : Expr) : List Token → Expr → List Token → Prop
  | stop {ts : List Token} (h : ∀ t ∈ ts.head?, ∀ c, t = .mark c → additive? c = none) :
    SumStep fuel left ts left ts
  | more {c : Char} {op : Operator} {right e : Expr} {r mid rest : List Token}
    (operator : additive? c = some op) (product : readProduct fuel r = some (right, mid))
    (sum : readSum fuel (.binary op left right) mid = some (e, rest)) :
    SumStep fuel left (.mark c :: r) e rest

theorem readSum_eq_some_iff {left : Expr} :
    readSum (fuel + 1) left ts = some (e, rest) ↔ SumStep fuel left ts e rest := by
  constructor
  · intro h
    -- the cases are those of the definition: no steps, a mark, and any other tokens
    unfold readSum at h
    split at h
    · next h0 => exact absurd h0 (Nat.succ_ne_zero fuel)
    · next n _ c r hn =>
      obtain rfl := Nat.succ.inj hn
      split at h
      · next hop =>
        cases h
        refine .stop ?_
        rintro t ⟨⟩ c' ⟨⟩
        exact hop
      · next op hop =>
        split at h
        · next hp => exact .more hop hp h
        · cases h
    · next hne =>
      cases h
      refine .stop ?_
      rintro t ht c rfl
      obtain ⟨r, hr⟩ := List.head?_eq_some_iff.mp ht
      exact absurd hr (hne c r)
  · rintro (h | ⟨hop, hp, hs⟩)
    · cases ts with
      | nil => rfl
      | cons t r =>
        cases t with
        | mark c => rw [readSum, h _ rfl c rfl]
        | _ => rfl
    · rw [readSum, hop]
      dsimp only
      rw [hp]
      exact hs

/-- A step of a product: it ends, or another factor follows. -/
inductive FactorsStep (fuel : Nat) (left : Expr) : List Token → Expr → List Token → Prop
  | stop {ts : List Token} (h : ∀ t ∈ ts.head?, t ≠ .mark '*') : FactorsStep fuel left ts left ts
  | more {right e : Expr} {r mid rest : List Token}
    (factor : readFactor fuel r = some (right, mid))
    (factors : readFactors fuel (.binary .times left right) mid = some (e, rest)) :
    FactorsStep fuel left (.mark '*' :: r) e rest

theorem readFactors_eq_some_iff {left : Expr} :
    readFactors (fuel + 1) left ts = some (e, rest) ↔ FactorsStep fuel left ts e rest := by
  constructor
  · intro h
    unfold readFactors at h
    split at h
    · next h0 => exact absurd h0 (Nat.succ_ne_zero fuel)
    · next n _ r hn =>
      obtain rfl := Nat.succ.inj hn
      split at h
      · next hf => exact .more hf h
      · cases h
    · next hne =>
      cases h
      refine .stop ?_
      rintro t ht rfl
      obtain ⟨r, hr⟩ := List.head?_eq_some_iff.mp ht
      exact absurd hr (hne r)
  · rintro (h | ⟨hf, hs⟩)
    · rw [readFactors]
      rintro r rfl
      exact h _ rfl rfl
    · rw [readFactors, hf]
      exact hs

/-- A step of a factor: a sign in front of one, or an operand with the places of items. -/
inductive FactorStep (fuel : Nat) : List Token → Expr → List Token → Prop
  | minus {e : Expr} {r rest : List Token} (factor : readFactor fuel r = some (e, rest)) :
    FactorStep fuel (.mark '-' :: r) (.signed true e) rest
  | plus {e : Expr} {r rest : List Token} (factor : readFactor fuel r = some (e, rest)) :
    FactorStep fuel (.mark '+' :: r) (.signed false e) rest
  | atom {e e' : Expr} {ts mid rest : List Token}
    (h : ∀ t ∈ ts.head?, t ≠ .mark '-' ∧ t ≠ .mark '+')
    (atom : readAtom fuel ts = some (e, mid)) (places : readPlaces fuel e mid = some (e', rest)) :
    FactorStep fuel ts e' rest

theorem readFactor_eq_some_iff :
    readFactor (fuel + 1) ts = some (e, rest) ↔ FactorStep fuel ts e rest := by
  constructor
  · intro h
    unfold readFactor at h
    split at h
    · next h0 => exact absurd h0 (Nat.succ_ne_zero fuel)
    · next n r hn =>
      obtain rfl := Nat.succ.inj hn
      obtain ⟨⟨e', rest'⟩, hf, he⟩ := Option.map_eq_some_iff.mp h
      cases he
      exact .minus hf
    · next n r hn =>
      obtain rfl := Nat.succ.inj hn
      obtain ⟨⟨e', rest'⟩, hf, he⟩ := Option.map_eq_some_iff.mp h
      cases he
      exact .plus hf
    · next ts _ _ n hn hminus hplus =>
      obtain rfl := Nat.succ.inj hn
      split at h
      · next ha =>
        -- the operand is not reached behind a sign
        refine .atom ?_ ha h
        intro t ht
        obtain ⟨r, rfl⟩ := List.head?_eq_some_iff.mp ht
        refine ⟨?_, ?_⟩
        · rintro rfl
          exact hminus r rfl
        · rintro rfl
          exact hplus r rfl
      · cases h
  · rintro (hf | hf | ⟨h, ha, hp⟩)
    · rw [readFactor, hf]
      rfl
    · rw [readFactor, hf]
      rfl
    · rw [readFactor, ha]
      · exact hp
      · rintro r rfl
        exact (h _ rfl).1 rfl
      · rintro r rfl
        exact (h _ rfl).2 rfl

/-- A step of the places behind an operand: they end, or another one follows. -/
inductive PlacesStep (fuel : Nat) (e : Expr) : List Token → Expr → List Token → Prop
  | stop {ts : List Token} (h : ∀ t ∈ ts.head?, t ≠ .mark '[') : PlacesStep fuel e ts e ts
  | more {i : Int} {e' : Expr} {r mid rest : List Token} (holds : e.hasPlaces = true)
    (place : place? r = some (i, mid))
    (places : readPlaces fuel (.item e i) mid = some (e', rest)) :
    PlacesStep fuel e (.mark '[' :: r) e' rest

theorem readPlaces_eq_some_iff {e' : Expr} :
    readPlaces (fuel + 1) e ts = some (e', rest) ↔ PlacesStep fuel e ts e' rest := by
  constructor
  · intro h
    unfold readPlaces at h
    split at h
    · next h0 => exact absurd h0 (Nat.succ_ne_zero fuel)
    · next n _ r hn =>
      obtain rfl := Nat.succ.inj hn
      split at h
      · next he hp => exact .more he hp h
      · cases h
    · next hne =>
      cases h
      refine .stop ?_
      rintro t ht rfl
      obtain ⟨r, hr⟩ := List.head?_eq_some_iff.mp ht
      exact absurd hr (hne r)
  · rintro (h | ⟨he, hp, hs⟩)
    · rw [readPlaces]
      rintro r rfl
      exact h _ rfl rfl
    · rw [readPlaces, he, hp]
      exact hs

/-! ## Operands -/

/-- What stands between parentheses: a tuple, unless it is one expression without a comma. -/
def grouped : List Expr → Bool → Expr
  | [e], false => e
  | es, _ => .tuple es

/-- A step of an operand. The only call is that of the class of sets, without arguments. -/
inductive AtomStep (fuel : Nat) : List Token → Expr → List Token → Prop
  | emptySet (rest : List Token) :
    AtomStep fuel (.name setWord :: .mark '(' :: .mark ')' :: rest) (.set []) rest
  | name (n : Text) {rest : List Token} (h : ∀ t ∈ rest.head?, t ≠ .mark '(') :
    AtomStep fuel (.name n :: rest) (.name n) rest
  | constant {s : Text} {v : Value} (h : constant? s = some v) (rest : List Token) :
    AtomStep fuel (.keyword s :: rest) (.literal v) rest
  | numeral (k : Nat) (rest : List Token) :
    AtomStep fuel (.numeral k :: rest) (.literal (.int k)) rest
  | decimal (x : Binary64) (rest : List Token) :
    AtomStep fuel (.decimal x :: rest) (.literal (.float x)) rest
  | text (s : Text) (r : List Token) :
    AtomStep fuel (.text s :: r) (.literal (.text (s ++ (readTexts r).1))) (readTexts r).2
  | bytes (s : Bytes) (r : List Token) :
    AtomStep fuel (.bytes s :: r) (.literal (.bytes (s ++ (readByteStrings r).1)))
      (readByteStrings r).2
  | list {es : List Expr} {comma : Bool} {r rest : List Token}
    (items : readItems ']' fuel r = some (es, comma, rest)) :
    AtomStep fuel (.mark '[' :: r) (.list es) rest
  | group {es : List Expr} {comma : Bool} {r rest : List Token}
    (items : readItems ')' fuel r = some (es, comma, rest)) :
    AtomStep fuel (.mark '(' :: r) (grouped es comma) rest
  | emptyDict (rest : List Token) :
    AtomStep fuel (.mark '\x7b' :: .mark '\x7d' :: rest) (.dict []) rest
  | dict {key : Expr} {entries : List (Expr × Expr)} {r mid rest : List Token}
    (expr : readExpr fuel r = some (key, .mark ':' :: mid))
    (value : readValue fuel key mid = some (entries, rest)) :
    AtomStep fuel (.mark '\x7b' :: r) (.dict entries) rest
  | set {e : Expr} {es : List Expr} {comma : Bool} {r mid rest : List Token}
    (expr : readExpr fuel r = some (e, .mark ',' :: mid))
    (items : readItems '\x7d' fuel mid = some (es, comma, rest)) :
    AtomStep fuel (.mark '\x7b' :: r) (.set (e :: es)) rest
  | singleton {e : Expr} {r rest : List Token}
    (expr : readExpr fuel r = some (e, .mark '\x7d' :: rest)) :
    AtomStep fuel (.mark '\x7b' :: r) (.set [e]) rest

theorem readAtom_paren (fuel : Nat) (r : List Token) :
    readAtom (fuel + 1) (.mark '(' :: r) =
      (readItems ')' fuel r).map fun (es, comma, rest) => (grouped es comma, rest) := by
  rw [readAtom]
  split
  · next h => rw [h]; rfl
  · next es comma rest hne h =>
    rw [h]
    refine congrArg (fun e => some (e, rest)) ?_
    unfold grouped
    split
    · next e => exact (hne e rfl rfl).elim
    · rfl
  · next h => rw [h]; rfl

/-- An expression starts with no brace that closes. -/
theorem ne_brace_of_readExpr {p : Expr × List Token} (h : readExpr fuel ts = some p)
    (r : List Token) : ts ≠ .mark '\x7d' :: r := by
  rintro rfl
  rw [readExpr_eq_none (ends_cons (by decide) r)] at h
  cases h

theorem AtomStep.of_readAtom (h : readAtom (fuel + 1) ts = some (e, rest)) :
    AtomStep fuel ts e rest := by
  rw [readAtom.eq_def] at h
  dsimp only at h
  split at h
  · -- a call, which only the class of sets has
    split at h
    · split at h
      · next hn =>
        cases h
        rw [hn]
        exact .emptySet rest
      · cases h
    · cases h
  · next n r hne =>
    cases h
    refine .name n ?_
    rintro t ht rfl
    obtain ⟨r, hr⟩ := List.head?_eq_some_iff.mp ht
    exact hne r hr
  · obtain ⟨v, hv, he⟩ := Option.map_eq_some_iff.mp h
    cases he
    exact .constant hv rest
  · cases h
    exact .numeral _ rest
  · cases h
    exact .decimal _ rest
  · next s r =>
    cases h
    exact .text s r
  · next s r =>
    cases h
    exact .bytes s r
  · obtain ⟨⟨es, comma, rest'⟩, hi, he⟩ := Option.map_eq_some_iff.mp h
    cases he
    exact .list hi
  · next r =>
    have hr := readAtom_paren fuel r
    rw [readAtom] at hr
    obtain ⟨⟨es, comma, rest'⟩, hi, he⟩ := Option.map_eq_some_iff.mp (hr.symm.trans h)
    cases he
    exact .group hi
  · cases h
    exact .emptyDict rest
  · -- behind a brace the mark that follows the first expression decides
    split at h
    · next hk =>
      obtain ⟨⟨entries, rest'⟩, hv, he⟩ := Option.map_eq_some_iff.mp h
      cases he
      exact .dict hk hv
    · next hk =>
      obtain ⟨⟨es, comma, rest'⟩, hi, he⟩ := Option.map_eq_some_iff.mp h
      cases he
      exact .set hk hi
    · next hk =>
      cases h
      exact .singleton hk
    · cases h
  · cases h

theorem AtomStep.readAtom_eq (h : AtomStep fuel ts e rest) :
    readAtom (fuel + 1) ts = some (e, rest) := by
  cases h with
  | emptySet => rfl
  | name n h =>
    rw [readAtom]
    rintro r rfl
    exact h _ rfl rfl
  | constant h =>
    rw [readAtom, h]
    rfl
  | list hi =>
    rw [readAtom, hi]
    rfl
  | group hi =>
    rw [readAtom_paren, hi]
    rfl
  | dict hk hv =>
    rw [readAtom, hk]
    · exact congrArg (Option.map _) hv
    · exact ne_brace_of_readExpr hk
  | set hk hi =>
    rw [readAtom, hk]
    · exact congrArg (Option.map _) hi
    · exact ne_brace_of_readExpr hk
  | singleton hk =>
    rw [readAtom, hk]
    · rfl
    · exact ne_brace_of_readExpr hk
  | _ => rfl

theorem readAtom_eq_some_iff :
    readAtom (fuel + 1) ts = some (e, rest) ↔ AtomStep fuel ts e rest :=
  ⟨.of_readAtom, AtomStep.readAtom_eq⟩

/-! ## Lists and entries -/

/-- A step of a list: the bracket that closes it, its last expression, or one before a comma. -/
inductive ItemsStep (close : Char) (fuel : Nat) :
    List Token → List Expr → Bool → List Token → Prop
  | close (rest : List Token) : ItemsStep close fuel (.mark close :: rest) [] false rest
  | last {e : Expr} {ts rest : List Token} (h : ts.head? ≠ some (.mark close)) (hc : close ≠ ',')
    (expr : readExpr fuel ts = some (e, .mark close :: rest)) :
    ItemsStep close fuel ts [e] false rest
  | more {e : Expr} {es : List Expr} {comma : Bool} {ts mid rest : List Token}
    (h : ts.head? ≠ some (.mark close)) (expr : readExpr fuel ts = some (e, .mark ',' :: mid))
    (items : readItems close fuel mid = some (es, comma, rest)) :
    ItemsStep close fuel ts (e :: es) true rest

theorem readItems_eq_some_iff {close : Char} {es : List Expr} {comma : Bool} :
    readItems close (fuel + 1) ts = some (es, comma, rest) ↔
      ItemsStep close fuel ts es comma rest := by
  constructor
  · intro h
    rw [readItems] at h
    split at h
    · next hhead =>
      obtain ⟨r, rfl⟩ := List.head?_eq_some_iff.mp hhead
      cases h
      exact .close r
    · next hhead =>
      split at h
      · next he =>
        split at h
        · next hcomma =>
          obtain ⟨⟨es', comma', rest'⟩, hi, hr⟩ := Option.map_eq_some_iff.mp h
          cases hr
          rw [hcomma] at he
          exact .more hhead he hi
        · next hcomma =>
          split at h
          · next hclose =>
            cases h
            rw [hclose] at he hcomma
            exact .last hhead hcomma he
          · cases h
      · cases h
  · intro h
    cases h with
    | close => rw [readItems, List.head?_cons, if_pos rfl, List.tail_cons]
    | last hhead hc he =>
      rw [readItems, if_neg hhead, he]
      dsimp only
      rw [if_neg hc, if_pos rfl]
    | more hhead he hi =>
      rw [readItems, if_neg hhead, he]
      dsimp only
      rw [if_pos rfl, hi]
      rfl

/-- A step of a dictionary behind a key: its last value, or one before another key. -/
inductive ValueStep (fuel : Nat) (key : Expr) :
    List Token → List (Expr × Expr) → List Token → Prop
  | last {e : Expr} {ts rest : List Token}
    (expr : readExpr fuel ts = some (e, .mark '\x7d' :: rest)) :
    ValueStep fuel key ts [(key, e)] rest
  | trailing {e : Expr} {ts rest : List Token}
    (expr : readExpr fuel ts = some (e, .mark ',' :: .mark '\x7d' :: rest)) :
    ValueStep fuel key ts [(key, e)] rest
  | more {e next : Expr} {entries : List (Expr × Expr)} {ts r mid rest : List Token}
    (expr : readExpr fuel ts = some (e, .mark ',' :: r))
    (nextKey : readExpr fuel r = some (next, .mark ':' :: mid))
    (value : readValue fuel next mid = some (entries, rest)) :
    ValueStep fuel key ts ((key, e) :: entries) rest

theorem readValue_eq_some_iff {key : Expr} {entries : List (Expr × Expr)} :
    readValue (fuel + 1) key ts = some (entries, rest) ↔ ValueStep fuel key ts entries rest := by
  constructor
  · intro h
    rw [readValue.eq_def] at h
    dsimp only at h
    split at h
    · next he =>
      cases h
      exact .last he
    · next he =>
      cases h
      exact .trailing he
    · next he =>
      split at h
      · next hk =>
        obtain ⟨⟨entries', rest'⟩, hv, hr⟩ := Option.map_eq_some_iff.mp h
        cases hr
        exact .more he hk hv
      · cases h
    · cases h
  · intro h
    rw [readValue.eq_def]
    dsimp only
    cases h with
    | last he => rw [he]; rfl
    | trailing he => rw [he]; rfl
    | more he hk hv =>
      rw [he]
      -- the comma does not stand in front of the brace, since another key does
      split
      · next h => cases h
      · next h =>
        cases h
        exact absurd rfl (ne_brace_of_readExpr hk _)
      · next h =>
        cases h
        rw [hk]
        exact congrArg (Option.map _) hv
      · next h => exact absurd rfl (h _ _)

end Program

end Marginalia
