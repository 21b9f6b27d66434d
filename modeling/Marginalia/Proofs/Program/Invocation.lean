import Marginalia.Proofs.Program.Call
import Marginalia.Proofs.Program.Gathering
import Marginalia.Proofs.Text.RawLines

/-!
# Invocations read back

The line of an invocation is a program of its own: the call of what is asked for and, where the
depth asks for one, the call of a trace. Names and texts come back from their literals, expressions
from themselves, whichever characters beyond ASCII the literals show as themselves. Two things stand
in the way: the digits of a depth may be too many, and so may the brackets that are open at a time,
since a dump puts two of its own around those of an expression.

## Main definitions

* `DumpEntry.read?`: an entry of a dump with the expression that it is
* `Invocation.mainCall?`: the debug call that an invocation asks for
* `Invocation.callsFrom`: that call, followed by the trace
* `Program.IsReading`: tokens that read as some debug calls
* `Invocation.nesting`: how many brackets are open at a time on the line of an invocation

## Main results

* `Invocation.exists_reading`: the line of an invocation reads as its calls
* `Invocation.items_lineIn`: the program that the line is
* `Invocation.source_reads_back`: invocations read back
-/

namespace Marginalia

open Program

/-! ## Names -/

namespace Value

/-- The token that a name is written as. -/
def nameToken : Value → Token
  | .text s => .text s
  | _ => .keyword "None".toList

/-- The expression that a name is written as. -/
def nameExpr : Value → Expr
  | .text s => .literal (.text s)
  | _ => .literal .none

theorem expr?_nameToken (v : Value) : expr? [v.nameToken] = some v.nameExpr := by
  cases v with
  | text s => exact expr?_text s
  | _ => rfl

theorem nesting_nameToken (v : Value) : nesting 0 [v.nameToken] = 0 := by
  cases v <;> rfl

theorem exists_nameExpr (v : Value) : ∃ w, v.nameExpr = .literal w := by
  cases v with
  | text s => exact ⟨_, rfl⟩
  | _ => exact ⟨_, rfl⟩

theorem spells_nameTextIn (shown : Char → Bool) (v : Value) :
    Spells (Invocation.nameTextIn shown v) [v.nameToken] := by
  have hnone : Spells "None".toList [.keyword "None".toList] := by
    intro r hr
    have hword : word "None".toList = .keyword "None".toList := by decide
    rw [← hword]
    refine lexes_word (by decide) (by decide) fun d hd => ⟨isNameChar_of_follows hr hd, ?_⟩
    exact hr.eq_false (by decide) hd
  cases v with
  | text s => exact fun _ hr => lexes_write shown s hr
  | _ => exact hnone

end Value

/-! ## What an invocation asks for -/

/-- How many brackets are open at a time in the expression of an entry. -/
def DumpEntry.nesting (e : DumpEntry) : Nat :=
  Program.nesting 0 ((lexemes? e.expression).getD [])

/-- An entry of a dump as an expression under its name, if it is one. -/
def DumpEntry.read? (e : DumpEntry) : Option (Text × Expr) :=
  (expression? e.expression).map (e.name, ·)

namespace Invocation

/-- The debug call that an invocation asks for. A dump with an entry that is no expression has
none. -/
def mainCall? (i : Invocation) : Option DebugCall :=
  match i.call with
  | .message s => some (.message i.target.nameExpr s)
  | .dump entries =>
    (entries.mapM DumpEntry.read?).map (.dump i.target.nameExpr i.format.nameExpr)
  | .exec _ => none

/-- The debug call that shows the calls in progress. -/
def traceCall (i : Invocation) : DebugCall := .trace i.target.nameExpr i.depth i.format.nameExpr

/-- The debug calls of an invocation, the first of them given. -/
def callsFrom (i : Invocation) (main : DebugCall) : List DebugCall :=
  if i.depth ≤ 0 then [main] else [main, i.traceCall]

/-- How many brackets are open at a time on the line of an invocation: that of a call and that of a
dictionary are open around the expressions of a dump. -/
def nesting (i : Invocation) : Nat :=
  match i.call with
  | .dump entries => (entries.map DumpEntry.nesting).foldr max 0 + 2
  | _ => 1

end Invocation

/-! ## Tokens -/

namespace Program

/-- The tokens of a line that reads as some calls. -/
structure IsReading (ts : List Token) (calls : List DebugCall) : Prop where
  ne_nil : ts ≠ []
  closes : Closes none ts
  header? : header? ts = none
  statements? (number depth : Nat) :
    statements? ⟨number, depth, ts⟩ = some (calls.map fun c => ⟨number, .debug c⟩)

theorem header?_callTokens (function : Text) (rows : List (List Token)) (us : List Token) :
    header? (callTokens function rows ++ us) = none := rfl

theorem isReading_one {function : Text} {rows : List (List Token)} {es : List Expr}
    {call : DebugCall} (h : AreExprs rows es) (hc : callOf? function es = some call) :
    IsReading (callTokens function rows) [call] where
  ne_nil := List.cons_ne_nil _ _
  closes := (consumes_callTokens h.consumes function).closes
  header? := header?_callTokens function rows []
  statements? := by
    intro number depth
    have hs := statement?_of_debugCall? ((debugCall?_callTokens h function).trans hc)
    have hquiet := (consumes_callTokens h.consumes function).isQuiet
    rw [Program.statements?, statementTokens_one hquiet]
    simp [hs]

theorem isReading_two {function function' : Text} {rows rows' : List (List Token)}
    {es es' : List Expr} {call call' : DebugCall} (h : AreExprs rows es) (h' : AreExprs rows' es')
    (hc : callOf? function es = some call) (hc' : callOf? function' es' = some call') :
    IsReading (callTokens function rows ++ .mark ';' :: callTokens function' rows')
      [call, call'] where
  ne_nil := List.cons_ne_nil _ _
  closes := by
    have hsecond := (isReading_one h' hc').closes
    exact (isReading_one h hc).closes.append (.cons (fun _ n _ => ⟨n, rfl⟩) hsecond)
  header? := header?_callTokens function rows _
  statements? := by
    intro number depth
    have hs := statement?_of_debugCall? ((debugCall?_callTokens h function).trans hc)
    have hs' := statement?_of_debugCall? ((debugCall?_callTokens h' function').trans hc')
    have hquiet := (consumes_callTokens h.consumes function).isQuiet
    have hquiet' := (consumes_callTokens h'.consumes function').isQuiet
    rw [Program.statements?, statementTokens_two hquiet hquiet' (List.cons_ne_nil _ _)]
    simp [hs, hs']

theorem entryName?_entryExpr (es : List (Text × Expr)) :
    (es.map entryExpr).mapM entryName? = some es := by
  induction es with
  | nil => rfl
  | cons e es ih =>
    rw [List.map_cons, List.mapM_cons, ih]
    rfl

/-- The entries of a dump are spelled by rows of tokens. -/
theorem exists_entryParts (shown : Char → Bool) {entries : List DumpEntry}
    {es : List (Text × Expr)} (h : entries.mapM DumpEntry.read? = some es) :
    ∃ parts : List (Text × List Token),
      parts.map Prod.fst =
          entries.map (fun e => Quoted.write shown e.name ++ colonSpace ++ e.expression) ∧
        (∀ p ∈ parts, Spells p.1 p.2) ∧ AreEntries (parts.map Prod.snd) (es.map entryExpr) ∧
        (parts.map Prod.snd).map (nesting 0) = entries.map DumpEntry.nesting := by
  induction entries generalizing es with
  | nil =>
    cases h
    exact ⟨[], rfl, by simp, .nil, rfl⟩
  | cons e entries ih =>
    rw [List.mapM_cons] at h
    obtain ⟨p, hp, h⟩ := Option.bind_eq_some_iff.mp h
    obtain ⟨es', hes, h⟩ := Option.bind_eq_some_iff.mp h
    cases h
    obtain ⟨x, hx, rfl⟩ := Option.map_eq_some_iff.mp hp
    obtain ⟨ts, hlexemes, hts, hspells⟩ := exists_spells hx
    obtain ⟨parts, hfst, hall, hrows, hdeep⟩ := ih hes
    have hnesting : nesting 0 (entryTokens [.text e.name] ts) = e.nesting := by
      rw [DumpEntry.nesting, hlexemes]
      rfl
    refine ⟨(Quoted.write shown e.name ++ colonSpace ++ e.expression,
      entryTokens [.text e.name] ts) :: parts, by rw [List.map_cons, List.map_cons, hfst],
      List.forall_mem_cons.mpr ⟨?_, hall⟩, .cons ⟨_, ts, rfl, expr?_text e.name, hts⟩ hrows, ?_⟩
    swap
    · rw [List.map_cons, List.map_cons, List.map_cons, hdeep, hnesting]
    -- the name, the colon and the expression are tokens of their own
    intro r hr
    have hcolon := lexes_mark (c := ':') (by decide) (' ' :: (e.expression ++ r))
    have hname := lexes_write shown e.name
      (follows_cons (c := ':') (by decide) (' ' :: (e.expression ++ r)))
    have hline := hname.append (hcolon.append (lexes_space (hspells r hr)))
    simpa [colonSpace, entryTokens] using hline

/-- The dictionary of a dump is spelled by its tokens. -/
theorem exists_tableTokens (shown : Char → Bool) {entries : List DumpEntry}
    {es : List (Text × Expr)} (h : entries.mapM DumpEntry.read? = some es) :
    ∃ rows, AreEntries rows (es.map entryExpr) ∧
      rows.map (nesting 0) = entries.map DumpEntry.nesting ∧
        Spells (Invocation.tableTextIn shown entries) (tableTokens rows) := by
  obtain ⟨parts, hfst, hall, hrows, hdeep⟩ := exists_entryParts shown h
  refine ⟨_, hrows, hdeep, fun r _ => ?_⟩
  have hclose : Lexes ('\x7d' :: r) [.mark '\x7d'] r := lexes_mark (by decide) r
  have hbody := (lexes_joined hall (follows_cons (c := '\x7d') (by decide) r)).append hclose
  have hline := (lexes_mark (c := '\x7b') (by decide) _).append hbody
  rw [hfst] at hline
  simpa [Invocation.tableTextIn, openBrace, closeBrace, tableTokens] using hline

end Program

/-! ## Calls -/

namespace Invocation

/-- What a call of the library is written with, what it stands for and how deep it is nested. -/
structure IsCall (s : Text) (call : DebugCall) (depth : Nat) : Prop where
  exists_rows : ∃ function rows es, callOf? function es = some call ∧ AreExprs rows es ∧
    (∀ r, Lexes (s ++ r) (callTokens function rows) r) ∧
      Program.nesting 0 (callTokens function rows) = depth

variable {i : Invocation} {main : DebugCall} (shown : Char → Bool)

/-- **What an invocation asks for** is written as its call. -/
theorem isCall_mainTextIn (h : i.mainCall? = some main) :
    IsCall (i.mainTextIn shown) main i.nesting := by
  obtain ⟨call, target, format, depth⟩ := i
  have htarget := target.expr?_nameToken
  have hformat := format.expr?_nameToken
  cases call with
  | message s =>
    obtain rfl := Option.some.inj h
    have hparts : ∀ p ∈ [(nameTextIn shown target, [target.nameToken]),
        (Quoted.write shown s, [Token.text s])], Spells p.1 p.2 := by
      simp only [List.forall_mem_cons]
      exact ⟨target.spells_nameTextIn shown, fun _ hr => lexes_write shown s hr, by simp⟩
    have hline := lexes_callText messageFunction (by decide) hparts
    have hrows : AreExprs [[target.nameToken], [Token.text s]] [target.nameExpr, .literal (.text s)] :=
      .cons htarget (.cons (expr?_text s) .nil)
    refine ⟨messageFunction, _, _, ?_, hrows, hline, ?_⟩
    · simp [callOf?]
    · rw [nesting_callTokens hrows.consumes, List.map_cons, target.nesting_nameToken]
      rfl
  | dump entries =>
    obtain ⟨es, hes, rfl⟩ := Option.map_eq_some_iff.mp h
    obtain ⟨rows, hrows, hdeep, hspells⟩ := exists_tableTokens shown hes
    have hparts : ∀ p ∈ [(nameTextIn shown target, [target.nameToken]),
        (nameTextIn shown format, [format.nameToken]),
        (tableTextIn shown entries, tableTokens rows)], Spells p.1 p.2 := by
      simp only [List.forall_mem_cons]
      exact ⟨target.spells_nameTextIn shown, format.spells_nameTextIn shown, hspells, by simp⟩
    have hline := lexes_callText dumpFunction (by decide) hparts
    have harguments : AreExprs [[target.nameToken], [format.nameToken], tableTokens rows]
        [target.nameExpr, format.nameExpr, .dict (es.map entryExpr)] :=
      .cons htarget (.cons hformat (.cons (expr?_table hrows) .nil))
    refine ⟨dumpFunction, _, _, ?_, harguments, hline, ?_⟩
    · simp only [callOf?, if_true, entryName?_entryExpr]
      rfl
    · rw [nesting_callTokens harguments.consumes, List.map_cons, List.map_cons, List.map_cons,
        target.nesting_nameToken, format.nesting_nameToken, nesting_tableTokens hrows.consumes,
        hdeep]
      simp [Invocation.nesting]
  | exec code => cases h

/-- **The trace of an invocation** is written as its call, unless its depth has too many digits. -/
theorem isCall_traceTextIn (hd : 0 < i.depth) (hl : Digits.tooLong i.depth = false) :
    IsCall (i.traceTextIn shown) i.traceCall 1 := by
  obtain ⟨n, hn⟩ := Int.eq_ofNat_of_zero_le (Int.le_of_lt hd)
  have hdec : Digits.decimalInt i.depth = Digits.decimal n := by rw [hn]; rfl
  have hparts : ∀ p ∈ [(nameTextIn shown i.target, [i.target.nameToken]),
      (Digits.decimalInt i.depth, [Token.numeral n]),
      (nameTextIn shown i.format, [i.format.nameToken])], Spells p.1 p.2 := by
    simp only [List.forall_mem_cons]
    refine ⟨i.target.spells_nameTextIn shown, fun r hr => ?_, i.format.spells_nameTextIn shown,
      by simp⟩
    rw [hdec]
    exact lexes_decimal (by rwa [hn] at hl) hr
  have hline := lexes_callText traceFunction (by decide) hparts
  have hnumeral : expr? [.numeral n] = some (.literal (.int n)) := rfl
  have hrows : AreExprs [[i.target.nameToken], [.numeral n], [i.format.nameToken]]
      [i.target.nameExpr, .literal (.int n), i.format.nameExpr] :=
    .cons i.target.expr?_nameToken (.cons hnumeral (.cons i.format.expr?_nameToken .nil))
  refine ⟨traceFunction, _, _, ?_, hrows, hline, ?_⟩
  · obtain ⟨v, hv⟩ := i.format.exists_nameExpr
    rw [traceCall, hn, hv]
    rfl
  · rw [nesting_callTokens hrows.consumes, List.map_cons, List.map_cons, List.map_cons,
      i.target.nesting_nameToken, i.format.nesting_nameToken]
    rfl

/-- **The line of an invocation reads as its calls.** -/
theorem exists_reading (h : i.mainCall? = some main)
    (hd : ¬ (0 < i.depth ∧ Digits.tooLong i.depth = true)) :
    ∃ ts, Lexes (i.lineIn shown) ts [] ∧ IsReading ts (i.callsFrom main) ∧
      Program.nesting 0 ts = i.nesting := by
  obtain ⟨function, rows, es, hc, hrows, hmain, hdeep⟩ := (isCall_mainTextIn shown h).exists_rows
  unfold callsFrom lineIn
  by_cases hle : i.depth ≤ 0
  · rw [if_pos hle, if_pos hle]
    refine ⟨_, ?_, isReading_one hrows hc, hdeep⟩
    simpa using hmain []
  · rw [if_neg hle, if_neg hle]
    have hpos : 0 < i.depth := by omega
    have hl : Digits.tooLong i.depth = false := by
      simpa [hpos] using hd
    obtain ⟨function', rows', es', hc', hrows', htrace, hshallow⟩ :=
      (isCall_traceTextIn shown hpos hl).exists_rows
    have hnesting : Program.nesting 0 (callTokens function rows ++ .mark ';' ::
        callTokens function' rows') = i.nesting := by
      have hsecond : Program.nesting 0 (.mark ';' :: callTokens function' rows') = 1 := hshallow
      have hone : 1 ≤ i.nesting := by
        unfold Invocation.nesting
        split <;> omega
      rw [(consumes_callTokens hrows.consumes function).closes.nesting_append, hdeep, hsecond]
      exact Nat.max_eq_left hone
    refine ⟨_, ?_, isReading_two hrows hrows' hc hc', hnesting⟩
    have hsemicolon := lexes_mark (c := ';') (by decide) (' ' :: i.traceTextIn shown)
    have hsecond := lexes_space (htrace [])
    rw [List.append_nil] at hsecond
    have hline := (hmain _).append (hsemicolon.append hsecond)
    simpa [callSeparator] using hline

end Invocation

/-! ## Programs -/

/-- **A single line that reads as some calls** is the program of these calls, unless it is nested too
deep. -/
theorem Program.items_of_reading {c : Char} {s : Text} {ts : List Token} {calls : List DebugCall}
    (hone : Text.OneLine (c :: s)) (hnull : ∀ d ∈ c :: s, d.toNat ≠ 0) (hc : isGap c = false)
    (hlexes : Lexes (c :: s) ts []) (hreading : IsReading ts calls) :
    items (c :: s) =
      if Program.nesting 0 ts ≤ maxNesting then
        .ok (calls.map fun call => .statement ⟨1, .debug call⟩)
      else .error ⟨1, .tooNested⟩ := by
  have hraw : (Text.unixLines (c :: s)).splitAt '\n' = [c :: s] := Text.rawLines_oneLine hone
  have htokens : tokens 1 [] (c :: s) = .ok (ts, []) := hlexes.tokens_eq_ok (hreading.closes 1 0 [])
  have hindent : Indent.ofLine (c :: s) = .none := by
    rw [Indent.ofLine, List.takeWhile_cons_of_neg (by simp [hc])]
    rfl
  have hlevels : levels [] none [⟨1, .none, ts⟩] = some [⟨1, 0, ts⟩] := rfl
  split
  · next hn =>
    refine items_eq_ok_iff.mpr ⟨hnull, [⟨1, .none, ts⟩], [⟨1, 0, ts⟩], [], ?_, hlevels, ?_, ?_⟩
    · rw [hraw, ← hindent]
      exact .said hreading.ne_nil htokens hn (.nil 2)
    · have h := Gathers.outside (b := .outside) rfl rfl hreading.header? (hreading.statements? 1 0)
        (.nil (by simp))
      rwa [List.append_nil, List.map_map] at h
    · intro item hitem
      obtain ⟨call, -, rfl⟩ := List.mem_map.mp hitem
      exact ⟨rfl, rfl⟩
  · next hn =>
    have hsaid : saidFrom 1 [] none [c :: s] = some [⟨1, .none, ts⟩] := by
      rw [saidFrom_ended hreading.ne_nil htokens, Said.extend, hindent]
      rfl
    have hlines : lines (c :: s) = .ok [⟨1, 0, ts⟩] :=
      lines_eq_ok_iff.mpr ⟨_, hraw ▸ hsaid, hlevels⟩
    have hfault : bracketFaultFrom? 1 [c :: s] = some ⟨1, .tooNested⟩ := by
      rw [bracketFaultFrom?, bracketFault?, htokens]
      simp [Nat.lt_of_not_le hn]
    have hnone : ((c :: s).any fun d => d.toNat == 0) = false := by simpa using hnull
    rw [items, hnone, hlines, hraw, hfault]
    rfl

namespace Invocation

variable {i : Invocation} {main : DebugCall}

/-- The expressions of a dump stand on a line and hold no null character. -/
def IsPlain (i : Invocation) : Prop :=
  ∀ entries, i.call = .dump entries → ∀ e ∈ entries, ∀ c ∈ e.expression,
    isLineEnd c = false ∧ c.toNat ≠ 0

theorem kind_ne_exec_of_mainCall? (h : i.mainCall? = some main) : i.call.kind ≠ .exec := by
  obtain ⟨call, target, format, depth⟩ := i
  cases call with
  | exec code => cases h
  | _ => nofun

/-- **The line of an invocation as a program.** -/
theorem items_lineIn (h : i.mainCall? = some main) (he : i.IsPlain)
    (hd : ¬ (0 < i.depth ∧ Digits.tooLong i.depth = true)) (shown : Char → Bool) :
    items (i.lineIn shown) =
      if i.nesting ≤ maxNesting then
        .ok ((i.callsFrom main).map fun call => .statement ⟨1, .debug call⟩)
      else .error ⟨1, .tooNested⟩ := by
  have hone : (i.lineIn shown).OneLine :=
    oneLine_lineIn shown fun entries hc e hmem c hce => (he entries hc e hmem c hce).1
  have hnull : ∀ c ∈ i.lineIn shown, c.toNat ≠ 0 :=
    forall_mem_lineIn (fun c hc => by omega)
      fun entries hc e hmem c hce => (he entries hc e hmem c hce).2
  -- the line starts with the word that imports the library, so it is not indented
  obtain ⟨ts, hlexes, hreading, hnesting⟩ := exists_reading shown h hd
  obtain ⟨s, hs⟩ := exists_lineIn_eq_library shown (kind_ne_exec_of_mainCall? h)
  have hcons : i.lineIn shown = '_' :: (library.tail ++ s) := hs
  rw [hcons] at hone hnull hlexes ⊢
  rw [← hnesting]
  exact items_of_reading hone hnull (by decide) hlexes hreading

/-- **Invocations read back.** Unless its depth has too many digits, the source text of an
invocation is a line. As a program this line is the call that the invocation asks for, followed by
the call of a trace where the depth is positive, unless too many brackets are open at a time. Which
characters beyond ASCII the literals show as themselves does not matter. -/
theorem source_reads_back (ht : i.target.IsName) (hf : i.format.IsName)
    (h : i.mainCall? = some main) (he : i.IsPlain) :
    (i.source = if 0 < i.depth ∧ Digits.tooLong i.depth = true then
        .error (.literal .tooManyDigits) else .ok (i.lineIn isPrintable)) ∧
      ∀ shown : Char → Bool, (i.lineIn shown).OneLine ∧
        (¬ (0 < i.depth ∧ Digits.tooLong i.depth = true) →
          items (i.lineIn shown) =
            if i.nesting ≤ maxNesting then
              .ok ((i.callsFrom main).map fun call => .statement ⟨1, .debug call⟩)
            else .error ⟨1, .tooNested⟩) := by
  have hsource := source_eq ht hf (kind_ne_exec_of_mainCall? h)
  refine ⟨i.line_eq_lineIn ▸ hsource, fun shown => ⟨?_, fun hd => items_lineIn h he hd shown⟩⟩
  exact oneLine_lineIn shown fun entries hc e hmem c hce => (he entries hc e hmem c hce).1

/-- A dump of two entries and a trace of two frames, with both quotes in the path. -/
theorem source_reads_back_dump :
    let i : Invocation := ⟨.dump [⟨"a'".toList, "x*2".toList⟩, ⟨"\\".toList, "'#'".toList⟩],
      .text "it's \"q\"\n".toList, .none, 2⟩
    let main : DebugCall := .dump (.literal (.text "it's \"q\"\n".toList)) (.literal .none)
      [("a'".toList, .binary .times (.name ['x']) (.literal (.int 2))),
        ("\\".toList, .literal (.text ['#']))]
    i.target.IsName ∧ i.format.IsName ∧ i.mainCall? = some main ∧ i.IsPlain ∧
      i.source = .ok (i.lineIn isPrintable) ∧
      items (i.lineIn isPrintable) = .ok [.statement ⟨1, .debug main⟩,
        .statement ⟨1, .debug (.trace (.literal (.text "it's \"q\"\n".toList)) 2
          (.literal .none))⟩] := by
  intro i main
  have ht : i.target.IsName := .text _
  have hf : i.format.IsName := .none
  have hmain : i.mainCall? = some main := by rfl
  have hplain : i.IsPlain := by
    rintro entries ⟨⟩
    decide
  obtain ⟨hsource, hitems⟩ := source_reads_back ht hf hmain hplain
  have hdepth : ¬ (0 < i.depth ∧ Digits.tooLong i.depth = true) := by decide
  have hnesting : i.nesting ≤ maxNesting := by decide +kernel
  rw [if_neg hdepth] at hsource
  have hprogram := (hitems isPrintable).2 hdepth
  rw [if_pos hnesting] at hprogram
  exact ⟨ht, hf, hmain, hplain, hsource, hprogram⟩

/-- An expression of brackets in brackets. -/
def brackets (depth : Nat) : Text := List.replicate depth '[' ++ List.replicate depth ']'

/-- **Two invocations that do not read back.** A depth has more digits than are converted, and a
dump puts brackets around an expression that has as many as there may be, although the expression
is one in a program of its own. -/
theorem not_source_reads_back :
    let trace : Invocation := ⟨.message ['m'], .none, .none, Nat.pow 10 4300⟩
    let dump : Invocation := ⟨.dump [⟨['x'], brackets 199⟩], .none, .none, 0⟩
    trace.source = .error (.literal .tooManyDigits) ∧
      (items ("x = ".toList ++ brackets 199)).toOption.isSome = true ∧
      (expression? (brackets 199)).isSome = true ∧
      dump.source = .ok (dump.lineIn isPrintable) ∧
      items (dump.lineIn isPrintable) = .error ⟨1, .tooNested⟩ := by
  intro trace dump
  have hplain : dump.IsPlain := by
    rintro entries ⟨⟩
    decide +kernel
  have hread : (expression? (brackets 199)).isSome = true := by decide +kernel
  obtain ⟨e, he⟩ := Option.isSome_iff_exists.mp hread
  have hmain : dump.mainCall? = some (.dump (.literal .none) (.literal .none) [(['x'], e)]) := by
    simp [mainCall?, dump, DumpEntry.read?, he, Value.nameExpr]
  have hsource := source_eq (i := dump) .none .none (by decide)
  refine ⟨?_, by decide +kernel, hread, ?_, ?_⟩
  · rw [source_eq (i := trace) .none .none (by decide)]
    exact if_pos (by decide +kernel)
  · rw [hsource, dump.line_eq_lineIn]
    rfl
  · rw [items_lineIn hmain hplain (by decide) isPrintable]
    exact if_neg (by decide +kernel)

end Invocation

end Marginalia
