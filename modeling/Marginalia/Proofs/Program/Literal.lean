import Marginalia.Program.Literal
import Marginalia.Proofs.Program.Call

/-!
# Literals in tokens

Tokens stand for a value if they are an expression that is its literal. Constants, texts in several
pieces, numbers with a sign and containers of what stands for values all do.

## Main definitions

* `Program.Means`: tokens that stand for a value
* `Program.MeansEntry`: tokens that stand for an entry of a dictionary
* `Program.AreKeys`: keys that are different from each other

## Main results

* `Program.means_texts`, `Program.means_int`: adjacent texts, and numbers with their sign
* `Program.means_list`, `Program.means_tuple`, `Program.means_dict`: containers
-/

namespace Marginalia

namespace Program

variable {ts : List Token} {rows : List (List Token)} {v : Value} {vs : List Value}
  {entries : Entries}

/-- The tokens are an expression that is the literal of the value. -/
def Means (ts : List Token) (v : Value) : Prop := ∃ e, expr? ts = some e ∧ e.value? = some v

/-- The tokens are the key and the value of an entry with a colon between. -/
def MeansEntry (row : List Token) (e : Value × Value) : Prop :=
  ∃ ks ts, row = entryTokens ks ts ∧ Means ks e.1 ∧ Means ts e.2

/-! ## Constants -/

theorem means_none : Means [word "None".toList] .none := ⟨.literal .none, rfl, rfl⟩

theorem means_bool (b : Bool) : Means [word (spellBool b)] (.bool b) :=
  ⟨.literal (.bool b), by cases b <;> rfl, rfl⟩

theorem readTexts_texts (pieces : List Text) :
    readTexts (pieces.map .text) = (pieces.flatten, []) := by
  induction pieces with
  | nil => rfl
  | cons piece rest ih => rw [List.map_cons, readTexts, ih, List.flatten_cons]

/-- **Adjacent texts** stand for what they make up. -/
theorem means_texts {pieces : List Text} (hne : pieces ≠ []) :
    Means (pieces.map .text) (.text pieces.flatten) := by
  obtain ⟨piece, rest, rfl⟩ := List.exists_cons_of_ne_nil hne
  refine ⟨.literal (.text (piece :: rest).flatten), ?_, rfl⟩
  apply expr?_of_readAtom (by simp)
  intro fuel _
  rw [readAtom, readTexts_texts, List.flatten_cons]

/-- The tokens of an integer. -/
def intTokens : Int → List Token
  | .ofNat n => [.numeral n]
  | .negSucc n => [.mark '-', .numeral (n + 1)]

/-- **The digits of an integer** with its sign stand for the integer. -/
theorem means_int (i : Int) : Means (intTokens i) (.int i) := by
  cases i with
  | ofNat n => exact ⟨.literal (.int n), rfl, rfl⟩
  | negSucc n => exact ⟨.signed true (.literal (.int (n + 1 : Nat))), rfl, rfl⟩

/-! ## Containers -/

/-- Rows that stand for values are expressions with these values. -/
theorem exists_areExprs (h : List.Forall₂ Means rows vs) :
    ∃ es, AreExprs rows es ∧ Expr.values? es = some vs := by
  induction h with
  | nil => exact ⟨[], .nil, rfl⟩
  | @cons ts v rows vs hv _ ih =>
    obtain ⟨e, he, hvalue⟩ := hv
    obtain ⟨es, hes, hvalues⟩ := ih
    refine ⟨e :: es, .cons he hes, ?_⟩
    rw [Expr.values?, hvalue, hvalues]
    rfl

/-- Rows that stand for entries are pairs of expressions with these keys and values. -/
theorem exists_areEntries (h : List.Forall₂ MeansEntry rows entries) :
    ∃ pairs, AreEntries rows pairs ∧ Expr.pairs? pairs = some entries := by
  induction h with
  | nil => exact ⟨[], .nil, rfl⟩
  | @cons row e rows entries he _ ih =>
    obtain ⟨ks, ts, rfl, ⟨k, hk, hkey⟩, ⟨x, hx, hvalue⟩⟩ := he
    obtain ⟨pairs, hpairs, hentries⟩ := ih
    refine ⟨(k, x) :: pairs, .cons ⟨ks, ts, rfl, hk, hx⟩ hpairs, ?_⟩
    rw [Expr.pairs?, hkey, hvalue, hentries]
    rfl

/-- **A list** of what stands for values. -/
theorem means_list (h : List.Forall₂ Means rows vs) :
    Means (.mark '[' :: (joinedTokens rows ++ [.mark ']'])) (.list vs) := by
  obtain ⟨es, hes, hvalues⟩ := exists_areExprs h
  refine ⟨.list es, ?_, by rw [Expr.value?, hvalues]; rfl⟩
  apply expr?_of_readAtom (by simp)
  intro fuel hlen
  simp only [List.length_append, List.length_cons, List.length_nil] at hlen
  obtain ⟨fuel, rfl⟩ : ∃ k, fuel = k + 1 := ⟨fuel - 1, by omega⟩
  have hrows : 8 * ((joinedTokens rows).length + 1) ≤ fuel := by omega
  obtain ⟨comma, hread⟩ := readItems_joined ']' rfl hes hrows
  rw [readAtom, hread]
  rfl

/-- The tokens that close a tuple: a comma follows a single member. -/
def tupleClosing (n : Nat) : List Token :=
  if n = 1 then [.mark ',', .mark ')'] else [.mark ')']

/-- What stands in the parentheses of a tuple. -/
theorem readItems_tuple {es : List Expr} {fuel : Nat} (h : AreExprs rows es)
    (hf : 8 * ((joinedTokens rows ++ tupleClosing rows.length).length + 1) ≤ fuel) :
    ∃ comma, readItems ')' fuel (joinedTokens rows ++ tupleClosing rows.length) =
      some (es, comma, []) ∧ grouped es comma = .tuple es := by
  have hlength := h.length_eq
  by_cases hone : rows.length = 1
  · -- the comma behind a single member makes the tuple
    rw [tupleClosing, if_pos hone] at hf ⊢
    obtain ⟨ts, rfl⟩ := List.length_eq_one_iff.mp hone
    obtain ⟨e, rfl⟩ := List.length_eq_one_iff.mp (hlength.symm.trans hone)
    obtain ⟨he, -⟩ := List.forall₂_cons.mp h
    simp only [joinedTokens, List.length_append, List.length_cons, List.length_nil] at hf
    obtain ⟨fuel, rfl⟩ : ∃ k, fuel = k + 2 := ⟨fuel - 2, by omega⟩
    have hhead : (ts ++ [Token.mark ',', .mark ')']).head? ≠ some (.mark ')') := by
      rw [head?_append_of_expr? he]
      exact head?_of_expr? he rfl
    have henough : enough ts ≤ fuel + 1 := enough_le (by omega)
    have hread := readExpr_of_expr? he (stops_cons (c := ',') (by decide) [.mark ')']) henough
    refine ⟨true, ?_, rfl⟩
    rw [joinedTokens]
    exact readItems_eq_some_iff.mpr (.more hhead hread (readItems_eq_some_iff.mpr (.close [])))
  · rw [tupleClosing, if_neg hone] at hf ⊢
    simp only [List.length_append, List.length_cons, List.length_nil] at hf
    obtain ⟨fuel, rfl⟩ : ∃ k, fuel = k + 1 := ⟨fuel - 1, by omega⟩
    have hrows : 8 * ((joinedTokens rows).length + 1) ≤ fuel := by omega
    obtain ⟨comma, hread⟩ := readItems_joined ')' rfl h hrows
    refine ⟨comma, hread, ?_⟩
    unfold grouped
    split
    · exact absurd hlength hone
    · rfl

/-- **A tuple** of what stands for values. -/
theorem means_tuple (h : List.Forall₂ Means rows vs) :
    Means (.mark '(' :: (joinedTokens rows ++ tupleClosing rows.length)) (.tuple vs) := by
  obtain ⟨es, hes, hvalues⟩ := exists_areExprs h
  refine ⟨.tuple es, ?_, by rw [Expr.value?, hvalues]; rfl⟩
  apply expr?_of_readAtom (by simp)
  intro fuel hlen
  obtain ⟨comma, hread, hgrouped⟩ := readItems_tuple hes hlen
  rw [readAtom_paren, hread, ← hgrouped]
  rfl

/-! ## Dictionaries -/

/-- Keys that can be keys and are different from each other. -/
structure AreKeys (ks : List Value) : Prop where
  isKey : ∀ k ∈ ks, isKey k = true
  distinct : ks.Pairwise fun k k' => k.equals k' = false

/-- A key that is different from all others comes last. -/
theorem insert_of_forall_equals {key : Value} (h : ∀ e ∈ entries, e.1.equals key = false)
    (v : Value) : Value.insert key v entries = entries ++ [(key, v)] := by
  induction entries with
  | nil => rfl
  | cons e rest ih =>
    obtain ⟨he, hrest⟩ := List.forall_mem_cons.mp h
    rw [Value.insert, if_neg (by simp [he]), ih hrest, List.cons_append]

/-- **Entries with different keys** are the dictionary of the pairs that they are. -/
theorem entriesOf_eq_self (h : (entries.map Prod.fst).Pairwise fun k k' => k.equals k' = false) :
    Value.entriesOf entries = entries := by
  -- what has been put in stays in front, since no later key equals an earlier one
  have go : ∀ before rest : Entries,
      ((before ++ rest).map Prod.fst).Pairwise (fun k k' => k.equals k' = false) →
      rest.foldl (fun entries pair => Value.insert pair.1 pair.2 entries) before =
        before ++ rest := by
    intro before rest
    induction rest generalizing before with
    | nil => simp
    | cons e rest ih =>
      intro hpair
      have hbefore : ∀ d ∈ before, d.1.equals e.1 = false := by
        rw [List.map_append, List.pairwise_append] at hpair
        intro d hd
        exact hpair.2.2 _ (List.mem_map_of_mem hd) _ List.mem_cons_self
      rw [List.foldl_cons, insert_of_forall_equals hbefore, ih _ (by simpa using hpair),
        List.append_assoc, List.singleton_append]
  exact go [] entries h

/-- **A dictionary** of what stands for its entries. -/
theorem means_dict (h : List.Forall₂ MeansEntry rows entries)
    (hkeys : AreKeys (entries.map Prod.fst)) : Means (tableTokens rows) (.dict entries) := by
  obtain ⟨pairs, hpairs, hvalue⟩ := exists_areEntries h
  have hall : entries.all (fun pair => isKey pair.1) = true :=
    List.all_eq_true.mpr fun e he => hkeys.isKey _ (List.mem_map_of_mem he)
  refine ⟨.dict pairs, expr?_table hpairs, ?_⟩
  rw [Expr.value?, hvalue]
  dsimp only
  rw [if_pos hall, entriesOf_eq_self hkeys.distinct]

end Program

end Marginalia
