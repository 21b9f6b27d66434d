import Mathlib.Data.List.Forall2
import Marginalia.Proofs.Invocation
import Marginalia.Proofs.Program.Expression
import Marginalia.Proofs.Program.Nesting

/-!
# Calls read back

The calls that invocations are written as are read as calls of the library with their arguments,
and two of them with a semicolon between as two statements.

## Main definitions

* `Program.AreExprs`, `Program.AreEntries`: rows of tokens that are expressions or entries
* `Program.callTokens`, `Program.tableTokens`: the tokens of a call and of a dictionary

## Main results

* `Program.readItems_joined`, `Program.readValue_joined`: lists of expressions read back
* `Program.expr?_table`: a dictionary reads back
* `Program.debugCall?_callTokens`, `Program.lexes_callText`: a call reads back
* `Program.consumes_callTokens`, `Program.nesting_callTokens`: it closes its brackets, and how many
  of them are open at a time
-/

namespace Marginalia

namespace Program

variable {ts x : List Token} {e : Expr} {fuel : Nat}

/-! ## Lists of expressions -/

/-- An expression starts with no closing bracket. -/
theorem head?_of_expr? (h : expr? ts = some e) {c : Char} (hc : isClosing c = true) :
    ts.head? ≠ some (.mark c) := by
  intro hhead
  have hmem : c ∈ [')', ']', '\x7d'] := by simpa [isClosing, or_assoc] using hc
  have hends : Ends ts := by
    intro t ht
    rw [hhead] at ht
    exact ⟨c, hmem, (Option.some.inj ht).symm⟩
  have hread := expr?_eq_some h
  rw [readExpr_eq_none hends] at hread
  cases hread

theorem ne_nil_of_expr? (h : expr? ts = some e) : ts ≠ [] := ne_nil_of_readExpr (expr?_eq_some h)

/-- Rows of tokens that are expressions. -/
abbrev AreExprs (rows : List (List Token)) (es : List Expr) : Prop :=
  List.Forall₂ (fun ts e => expr? ts = some e) rows es

theorem enough_le (h : 8 * (ts.length + 1) ≤ fuel) : enough ts ≤ fuel := by
  rw [enough]
  omega

/-- The first of some tokens that go on. -/
theorem head?_append_of_expr? (h : expr? ts = some e) (x : List Token) :
    (ts ++ x).head? = ts.head? := List.head?_append_of_ne_nil ts (ne_nil_of_expr? h)

/-- **Expressions read back** up to the bracket that closes them. -/
theorem readItems_joined (close : Char) (hclose : isClosing close = true)
    {rows : List (List Token)} {es : List Expr} (h : AreExprs rows es)
    (hf : 8 * ((joinedTokens rows).length + 1) ≤ fuel) :
    ∃ comma, readItems close (fuel + 1) (joinedTokens rows ++ [.mark close]) =
      some (es, comma, []) := by
  have hstop : close ∈ [',', ')', ']', ':', '\x7d'] ∧ close ≠ ',' := by
    simp only [isClosing, Bool.or_eq_true, beq_iff_eq] at hclose
    rcases hclose with (rfl | rfl) | rfl <;> decide
  induction h generalizing fuel with
  | nil => exact ⟨false, by simp [joinedTokens, readItems]⟩
  | @cons ts e rows es he hrows ih =>
    have hhead : ∀ x, (ts ++ x).head? ≠ some (.mark close) := fun x => by
      rw [head?_append_of_expr? he]
      exact head?_of_expr? he hclose
    cases hrows with
    | nil =>
      have hread := readExpr_of_expr? he (stops_cons hstop.1 []) (enough_le hf)
      exact ⟨false, readItems_eq_some_iff.mpr (.last (hhead _) hstop.2 hread)⟩
    | @cons us e' rest es' he' hrest =>
      -- a comma follows, so that one step is taken and the rest is read with the others
      simp only [joinedTokens, List.length_append, List.length_cons] at hf
      obtain ⟨fuel, rfl⟩ : ∃ k, fuel = k + 1 := ⟨fuel - 1, by omega⟩
      obtain ⟨comma, hitems⟩ := @ih fuel (by omega)
      have henough : enough ts ≤ fuel + 1 := enough_le (by omega)
      have hread := readExpr_of_expr? he
        (stops_cons (c := ',') (by decide) (joinedTokens (us :: rest) ++ [.mark close])) henough
      refine ⟨true, ?_⟩
      rw [joinedTokens, List.append_assoc, List.cons_append]
      exact readItems_eq_some_iff.mpr (.more (hhead _) hread hitems)

/-- The row of tokens of an entry, from those of its key and its value. -/
def entryTokens (ks ts : List Token) : List Token := ks ++ .mark ':' :: ts

/-- Rows of tokens that are entries. -/
abbrev AreEntries (rows : List (List Token)) (entries : List (Expr × Expr)) : Prop :=
  List.Forall₂ (fun row p => ∃ ks ts, row = entryTokens ks ts ∧ expr? ks = some p.1 ∧
    expr? ts = some p.2) rows entries

/-- Rows behind another one. -/
def furtherTokens : List (List Token) → List Token
  | [] => []
  | row :: rows => .mark ',' :: (row ++ furtherTokens rows)

theorem joinedTokens_cons (row : List Token) (rows : List (List Token)) :
    joinedTokens (row :: rows) = row ++ furtherTokens rows := by
  induction rows generalizing row with
  | nil => simp [joinedTokens, furtherTokens]
  | cons row' rows ih => rw [joinedTokens, ih, furtherTokens]

/-- The entry of a name as an entry of a dictionary. -/
def entryExpr (p : Text × Expr) : Expr × Expr := (.literal (.text p.1), p.2)

theorem expr?_text (n : Text) : expr? [.text n] = some (.literal (.text n)) := by
  have h : expr? [.text n] = some (.literal (.text (n ++ []))) := rfl
  rwa [List.append_nil] at h

/-- **Entries read back** up to the brace that closes them. -/
theorem readValue_joined {rows : List (List Token)} {entries : List (Expr × Expr)}
    (h : AreEntries rows entries) {key : Expr} (he : expr? ts = some e)
    (hf : 8 * (ts.length + (furtherTokens rows).length + 1) ≤ fuel) :
    readValue (fuel + 1) key (ts ++ furtherTokens rows ++ .mark '\x7d' :: x) =
      some ((key, e) :: entries, x) := by
  induction h generalizing fuel key ts e with
  | nil =>
    have henough : enough ts ≤ fuel := enough_le (by omega)
    have hread := readExpr_of_expr? he (stops_cons (c := '\x7d') (by decide) x) henough
    rw [furtherTokens, List.append_nil]
    exact readValue_eq_some_iff.mpr (.last hread)
  | @cons row p rows entries hrow hrows ih =>
    obtain ⟨ks, us, rfl, hks, hus⟩ := hrow
    simp only [furtherTokens, entryTokens, List.length_append, List.length_cons] at hf
    obtain ⟨fuel, rfl⟩ : ∃ k, fuel = k + 1 := ⟨fuel - 1, by omega⟩
    have hrest : readValue (fuel + 1) p.1 (us ++ furtherTokens rows ++ .mark '\x7d' :: x) =
        some ((p.1, p.2) :: entries, x) := ih hus (by omega)
    have henough : enough ts ≤ fuel + 1 := enough_le (by omega)
    have hname : enough ks ≤ fuel + 1 := enough_le (by omega)
    have hread := readExpr_of_expr? he
      (stops_cons (c := ',') (by decide) (ks ++ .mark ':' ::
        (us ++ furtherTokens rows ++ .mark '\x7d' :: x))) henough
    have hkey := readExpr_of_expr? hks
      (stops_cons (c := ':') (by decide) (us ++ furtherTokens rows ++ .mark '\x7d' :: x)) hname
    have hstep : readValue (fuel + 2) key _ = _ :=
      readValue_eq_some_iff.mpr (.more hread hkey hrest)
    simpa [furtherTokens, entryTokens] using hstep

/-- The tokens of a dictionary. -/
def tableTokens (rows : List (List Token)) : List Token :=
  .mark '\x7b' :: (joinedTokens rows ++ [.mark '\x7d'])

/-- An operand is an expression. -/
theorem readExpr_of_readAtom {t : Token} (ht : t ≠ .mark '-' ∧ t ≠ .mark '+') (hx : Stops x)
    (h : readAtom (fuel + 1) (t :: ts) = some (e, x)) :
    readExpr (fuel + 4) (t :: ts) = some (e, x) := by
  have hsign : ∀ u ∈ (t :: ts).head?, u ≠ .mark '-' ∧ u ≠ .mark '+' := by
    rintro u ⟨⟩
    exact ht
  have hfactor : readFactor (fuel + 2) (t :: ts) = some (e, x) :=
    readFactor_eq_some_iff.mpr (.atom hsign h (readPlaces_stop hx))
  have hproduct : readProduct (fuel + 3) (t :: ts) = some (e, x) :=
    readProduct_eq_some_iff.mpr ⟨e, x, hfactor, readFactors_stop hx⟩
  exact readExpr_eq_some_iff.mpr ⟨e, x, hproduct, readSum_stop hx⟩

/-- An operand that takes all tokens is the expression that they are. -/
theorem expr?_of_readAtom {t : Token} (ht : t ≠ .mark '-' ∧ t ≠ .mark '+')
    (h : ∀ fuel, 8 * (ts.length + 1) ≤ fuel → readAtom (fuel + 1) (t :: ts) = some (e, [])) :
    expr? (t :: ts) = some e := by
  obtain ⟨fuel, hfuel⟩ : ∃ fuel, enough (t :: ts) = fuel + 4 :=
    ⟨enough (t :: ts) - 4, by rw [enough]; omega⟩
  have hread : readExpr (fuel + 4) (t :: ts) = some (e, []) := by
    apply readExpr_of_readAtom ht stops_nil
    apply h
    simp only [enough, List.length_cons] at hfuel
    omega
  rw [expr?, hfuel, hread]

/-- **A dictionary reads back.** -/
theorem expr?_table {rows : List (List Token)} {entries : List (Expr × Expr)}
    (h : AreEntries rows entries) : expr? (tableTokens rows) = some (.dict entries) := by
  apply expr?_of_readAtom (by simp)
  intro fuel hlen
  cases h with
  | nil => rfl
  | @cons row p rows entries hrow hrows =>
    obtain ⟨ks, ts, rfl, hks, hts⟩ := hrow
    simp only [joinedTokens_cons, entryTokens, List.length_append, List.length_cons] at hlen
    obtain ⟨fuel, rfl⟩ : ∃ k, fuel = k + 1 := ⟨fuel - 1, by omega⟩
    have hname : enough ks ≤ fuel + 1 := enough_le (by omega)
    have hkey := readExpr_of_expr? hks
      (stops_cons (c := ':') (by decide) (ts ++ furtherTokens rows ++ [.mark '\x7d'])) hname
    have hvalue : readValue (fuel + 1) p.1 (ts ++ furtherTokens rows ++ [.mark '\x7d']) =
        some ((p.1, p.2) :: entries, []) :=
      readValue_joined hrows hts (by omega)
    rw [readAtom_eq_some_iff]
    simp only [joinedTokens_cons, entryTokens, List.cons_append, List.append_assoc] at hkey hvalue ⊢
    exact .dict hkey hvalue

/-! ## Calls -/

/-- The tokens of a call of the library. -/
def callTokens (function : Text) (rows : List (List Token)) : List Token :=
  .name Invocation.importWord :: .mark '(' :: .text Invocation.libraryName :: .mark ')' ::
    .mark '.' :: .name function :: .mark '(' :: (joinedTokens rows ++ [.mark ')'])

/-- **A call of the library reads back.** -/
theorem debugCall?_callTokens {rows : List (List Token)} {es : List Expr} (h : AreExprs rows es)
    (function : Text) : debugCall? (callTokens function rows) = callOf? function es := by
  obtain ⟨fuel, hfuel⟩ : ∃ fuel, enough (joinedTokens rows ++ [Token.mark ')']) = fuel + 1 :=
    ⟨enough (joinedTokens rows ++ [Token.mark ')']) - 1, by rw [enough]; omega⟩
  have hlen : 8 * ((joinedTokens rows).length + 1) ≤ fuel := by
    simp only [enough, List.length_append, List.length_cons, List.length_nil] at hfuel
    omega
  obtain ⟨comma, hread⟩ := readItems_joined ')' rfl h hlen
  rw [callTokens, debugCall?, if_pos ⟨rfl, rfl⟩, hfuel, hread]

/-- A plain name starts with no digit. -/
theorem isDigit_of_isPlainName {w : Text} (hw : isPlainName w = true) (r : Text) :
    (w ++ r).head?.any Digits.isDigit = false := by
  cases w with
  | nil => cases hw
  | cons c s =>
    simp only [isPlainName, List.head?_cons, Option.any_some, startsWord, Bool.and_eq_true,
      Bool.not_eq_true'] at hw
    exact hw.1.1.1.1.2

/-- **What a call is written with** stands for its tokens. -/
theorem lexes_callText (function : Text) (hf : isPlainName function = true)
    {parts : List (Text × List Token)} (h : ∀ p ∈ parts, Spells p.1 p.2) (r : Text) :
    Lexes (Invocation.callText function (parts.map Prod.fst) ++ r)
      (callTokens function (parts.map Prod.snd)) r := by
  have hparen : ∀ (s : Text) d, ('(' :: s).head? = some d →
      isNameChar d = false ∧ isQuote d = false := by
    rintro s d ⟨⟩
    decide
  have hclose : Lexes (')' :: r) [.mark ')'] r := lexes_mark (by decide) r
  have harguments := lexes_joined h (follows_cons (c := ')') (by decide) r)
  have hopen := lexes_mark (c := '(') (by decide)
    (Text.joined commaSpace (parts.map Prod.fst) ++ ')' :: r)
  have hfunction := lexes_name hf (hparen (Text.joined commaSpace (parts.map Prod.fst) ++ ')' :: r))
  have hpoint := lexes_point (isDigit_of_isPlainName hf
    ('(' :: (Text.joined commaSpace (parts.map Prod.fst) ++ ')' :: r)))
  have hlibrary := (lexes_write isPrintable Invocation.libraryName
    (follows_cons (c := ')') (by decide) _)).append
      ((lexes_mark (c := ')') (by decide) _).append hpoint)
  have himport := (lexes_name (w := Invocation.importWord) (by decide) (hparen _)).append
    ((lexes_mark (c := '(') (by decide) _).append hlibrary)
  have hall := himport.append (hfunction.append (hopen.append (harguments.append hclose)))
  simpa [Invocation.callText, Invocation.library, Text.enclosed, callTokens, quote] using hall

/-! ## What calls consume -/

theorem AreExprs.consumes {rows : List (List Token)} {es : List Expr} (h : AreExprs rows es) :
    ∀ row ∈ rows, Consumes none row [] := by
  induction h with
  | nil => simp
  | cons he _ ih => exact List.forall_mem_cons.mpr ⟨consumes_of_expr? he, ih⟩

theorem AreEntries.consumes {rows : List (List Token)} {entries : List (Expr × Expr)}
    (h : AreEntries rows entries) : ∀ row ∈ rows, Consumes none row [] := by
  induction h with
  | nil => simp
  | cons hrow _ ih =>
    obtain ⟨ks, ts, rfl, hks, hts⟩ := hrow
    refine List.forall_mem_cons.mpr ⟨?_, ih⟩
    exact ((consumes_of_expr? hks).append_right _).trans (.trans .colon (consumes_of_expr? hts))

section Rows

variable {rows : List (List Token)} (h : ∀ row ∈ rows, Consumes none row [])
include h

theorem consumes_joinedTokens (r : List Token) : Consumes none (joinedTokens rows ++ r) r := by
  induction rows with
  | nil => exact .refl r
  | cons ts rows ih =>
    obtain ⟨hts, hrows⟩ := List.forall_mem_cons.mp h
    cases rows with
    | nil => exact hts.append_right r
    | cons us rest =>
      rw [joinedTokens, List.append_assoc]
      exact (hts.append_right _).trans (.trans .comma (ih hrows))

/-- **What a call consumes** is all of its tokens. -/
theorem consumes_callTokens (function : Text) : Consumes none (callTokens function rows) [] := by
  have hlibrary : ∀ r : List Token, Consumes none
      (.mark '(' :: .text Invocation.libraryName :: .mark ')' :: r) r := fun _ =>
    .opening rfl ((Consumes.plain (by simp)).trans (.closing rfl))
  have hpoint : ∀ r : List Token, Consumes none (.mark '.' :: r) r := fun _ =>
    .mark (by decide) (by decide) (by decide)
  have harguments : Consumes none (.mark '(' :: (joinedTokens rows ++ [.mark ')'])) [] :=
    .opening rfl ((consumes_joinedTokens h _).trans (.closing rfl))
  exact (Consumes.plain (by simp)).trans ((hlibrary _).trans ((hpoint _).trans
    ((Consumes.plain (by simp)).trans harguments)))

theorem closes_joinedTokens : Closes none (joinedTokens rows) := by
  have hall := consumes_joinedTokens h []
  rw [List.append_nil] at hall
  exact hall.closes

/-! ## How deep calls are nested -/

/-- Rows are nested as deep as the deepest of them. -/
theorem nesting_joinedTokens :
    nesting 0 (joinedTokens rows) = (rows.map (nesting 0)).foldr max 0 := by
  induction rows with
  | nil => rfl
  | cons ts rows ih =>
    obtain ⟨hts, hrows⟩ := List.forall_mem_cons.mp h
    rw [List.map_cons, List.foldr_cons, ← ih hrows]
    cases rows with
    | nil => exact (Nat.max_eq_left (Nat.zero_le _)).symm
    | cons us rest =>
      rw [joinedTokens, hts.closes.nesting_append]
      rfl

theorem nesting_tableTokens :
    nesting 0 (tableTokens rows) = (rows.map (nesting 0)).foldr max 0 + 1 := by
  rw [tableTokens, (closes_joinedTokens h).nesting_enclosed rfl, nesting_joinedTokens h]

/-- **A call is nested one deeper than its arguments.** -/
theorem nesting_callTokens (function : Text) :
    nesting 0 (callTokens function rows) = (rows.map (nesting 0)).foldr max 0 + 1 := by
  have harguments : nesting 0 (.mark '(' :: (joinedTokens rows ++ [.mark ')'])) =
      (rows.map (nesting 0)).foldr max 0 + 1 := by
    rw [(closes_joinedTokens h).nesting_enclosed rfl, nesting_joinedTokens h]
  have hlibrary : nesting 0 (callTokens function rows) =
      max 1 (nesting 0 (.mark '(' :: (joinedTokens rows ++ [.mark ')']))) := rfl
  rw [hlibrary, harguments, Nat.max_eq_right (Nat.le_add_left 1 _)]

end Rows

/-! ## Statements of calls -/

theorem splitOn_of_isQuiet (h : ∀ t ∈ ts, t.IsQuiet) :
    splitOn (fun t => decide (t = .mark ';')) ts = [ts] := by
  induction ts with
  | nil => rfl
  | cons t ts ih =>
    have ht := (h t List.mem_cons_self).1
    rw [splitOn, if_neg (by simpa using ht), ih fun u hu => h u (List.mem_cons_of_mem _ hu)]

theorem splitOn_semicolon (h : ∀ t ∈ ts, t.IsQuiet) (us : List Token) :
    splitOn (fun t => decide (t = .mark ';')) (ts ++ .mark ';' :: us) =
      ts :: splitOn (fun t => decide (t = .mark ';')) us := by
  induction ts with
  | nil => rfl
  | cons t ts ih =>
    have ht := (h t List.mem_cons_self).1
    rw [List.cons_append, splitOn, if_neg (by simpa using ht),
      ih fun u hu => h u (List.mem_cons_of_mem _ hu)]

theorem statementTokens_one (h : ∀ t ∈ ts, t.IsQuiet) : statementTokens ts = [ts] := by
  simp [statementTokens, splitOn_of_isQuiet h]

theorem statementTokens_two {us : List Token} (h : ∀ t ∈ ts, t.IsQuiet)
    (h' : ∀ t ∈ us, t.IsQuiet) (hne : us ≠ []) :
    statementTokens (ts ++ .mark ';' :: us) = [ts, us] := by
  simp [statementTokens, splitOn_semicolon h, splitOn_of_isQuiet h', hne]

theorem statement?_of_debugCall? {call : DebugCall} (h : debugCall? ts = some call) :
    statement? ts = some (.debug call) := by
  unfold statement?
  rw [h]

end Program

end Marginalia
