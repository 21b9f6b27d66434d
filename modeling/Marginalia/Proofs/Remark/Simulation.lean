import Marginalia.Proofs.Program.Library
import Marginalia.Proofs.Remark.Direct
import Marginalia.Proofs.Remark.Items

/-!
# Comparing runs

A program with debug calls in the places of remarks is compared with the program of the own lines
that performs the remarks itself. Both bind the same names to the same values, statement by
statement, as long as the calls of a remark do what performing it does. What the outlets have to do
with each other, and which faults end the comparison, is left open.

## Main definitions

* `Direct.Bridge`: what a comparison is made of
* `Direct.Mirrors`: the machines of two runs that have come equally far
* `Direct.Agrees`: what two runs have to do with each other
* `Direct.Bridge.Holds`: what has to be shown about debug calls and remarks

## Main results

* `Direct.agrees_call`: calls of functions agree
* `Direct.agrees_runItems`: programs agree
-/

namespace Marginalia

open Program Remark

namespace Direct

/-- What a comparison is made of. -/
structure Bridge where
  /-- The remarks by line. -/
  remarks : Nat → Option Remark
  /-- The debug calls in the place of a remark. -/
  calls : Remark → List DebugCall
  /-- What the outlets and the notices have to do with each other. -/
  world : Outlets → List Notice → Outlets → List Notice → Prop
  /-- The faults that end the comparison. -/
  excuses : ProgramFault → Prop
  /-- The stops that end the comparison. -/
  excusesStop : Stop → Prop

variable {B : Bridge} {m m' : Machine} {α β : Type}

/-- The machines of two runs that have come equally far. No name hides the library from them. -/
structure Mirrors (B : Bridge) (m m' : Machine) : Prop where
  world : B.world m.outlets m.notices m'.outlets m'.notices
  store : m.store = m'.store
  globals : m.globals = m'.globals
  routines : m.routines = m'.routines.map fun p => (p.1, spreadRoutine B.remarks B.calls p.2)
  nextId : m.nextId = m'.nextId
  below : m.below = m'.below
  unbound : LeavesLibrary m'.globals
  spares : ∀ p ∈ m'.routines, SparesLibrary p.2.ownNames

/-- What two runs have to do with each other: they end in mirrored machines and with the same value,
which is as it has to be, or with the same fault, unless the comparison has ended. -/
inductive Agrees (B : Bridge) (good : α → Prop) :
    Machine × Except ProgramFault α → Machine × Except Stop α → Prop
  | ok {m m' : Machine} {a : α} (h : Mirrors B m m') (ha : good a) :
    Agrees B good (m, .ok a) (m', .ok a)
  | error {m m' : Machine} {e : Stop} (h : Mirrors B m m') :
    Agrees B good (m, .error e.fault) (m', .error e)
  | excused {m : Machine} {e : ProgramFault} {y : Machine × Except Stop α} (h : B.excuses e) :
    Agrees B good (m, .error e) y
  | excusedStop {x : Machine × Except ProgramFault α} {m' : Machine} {e : Stop}
    (h : B.excusesStop e) : Agrees B good x (m', .error e)

/-- **Runs that agree go on to agree.** -/
theorem Agrees.andThen {good : α → Prop} {good' : β → Prop} {x : Machine × Except ProgramFault α}
    {y : Machine × Except Stop α} (h : Agrees B good x y)
    {f : Machine → α → Machine × Except ProgramFault β} {g : Machine → α → Machine × Except Stop β}
    (hf : ∀ m m' a, Mirrors B m m' → good a → Agrees B good' (f m a) (g m' a)) :
    Agrees B good' (Direct.andThen x f) (Direct.andThen y g) := by
  cases h with
  | ok h ha => exact hf _ _ _ h ha
  | error h => exact .error h
  | excused h => exact .excused h
  | excusedStop h => exact .excusedStop h

theorem andThen_andThen {ε γ : Type} (x : Machine × Except ε α)
    (f : Machine → α → Machine × Except ε β) (g : Machine → β → Machine × Except ε γ) :
    andThen (andThen x f) g = andThen x fun m a => andThen (f m a) g := by
  rcases x with ⟨m, _ | _⟩ <;> rfl

/-- Any value is good. -/
def Anything (_ : α) : Prop := True

/-- What follows a statement does not hide the library. -/
def GoesOn : Flow → Prop
  | .next scope => scope.IsOpen
  | .leave _ => True

/-! ## Machines -/

namespace Mirrors

variable (h : Mirrors B m m')
include h

theorem lookup (n : Text) (scope : Scope) :
    lookup m.store m.globals n scope = Program.lookup m'.store m'.globals n scope := by
  rw [h.globals, h.store]

theorem putStore (σ : Store) : Mirrors B { m with store := σ } { m' with store := σ } :=
  { h with store := rfl }

theorem bind {n : Text} {scope : Scope} (hn : n ∉ libraryNames) (v : Value) : Mirrors B (m.bind n v scope).1 (m'.bind n v scope).1 := by
  cases scope with
  | inside names bound => exact h
  | outside =>
    refine { h with globals := ?_, unbound := ?_ }
    · exact congrArg (Value.insert (.text n) v) h.globals
    · exact h.unbound.insert hn v

theorem unitText : m.unitText = m'.unitText := by
  rw [Machine.unitText, Machine.unitText, h.globals, h.store]

theorem define {r : Routine} (hn : r.name ∉ libraryNames)
    (ho : SparesLibrary r.ownNames) :
    Mirrors B (m.define (spreadRoutine B.remarks B.calls r)) (m'.define r) := by
  have hvalue : m.routineValue (spreadRoutine B.remarks B.calls r) = m'.routineValue r := by
    rw [Machine.routineValue, Machine.routineValue, h.unitText, h.nextId]
    rfl
  refine ⟨h.world, h.store, ?_, ?_, ?_, h.below, ?_, List.forall_mem_cons.mpr ⟨ho, h.spares⟩⟩
  · rw [Machine.define, Machine.define, hvalue, h.globals]
    rfl
  · rw [Machine.define, Machine.define, h.routines, h.nextId]
    rfl
  · exact congrArg (· + 1) h.nextId
  · exact h.unbound.insert hn _

theorem frames (file : Text) (sites : List Site) : m.frames file sites = m'.frames file sites := by
  rw [Machine.frames, Machine.frames, h.globals, h.below]

theorem shownBy (file : Text) (sites : List Site) (scope : Scope) (c : DebugCall) :
    m.shownBy file sites scope c = m'.shownBy file sites scope c := by
  cases c <;> simp only [Machine.shownBy, h.globals, h.store, h.frames]

theorem routine? (v : Value) :
    m.routine? v = (m'.routine? v).map (spreadRoutine B.remarks B.calls) := by
  have hlookup : ∀ number, m.routines.lookup number =
      (m'.routines.lookup number).map (spreadRoutine B.remarks B.calls) := by
    intro number
    rw [h.routines]
    induction m'.routines with
    | nil => rfl
    | cons p rest ih =>
      obtain ⟨k, r⟩ := p
      rw [List.map_cons, List.lookup_cons, List.lookup_cons]
      cases number == k with
      | true => rfl
      | false => exact ih
  unfold Machine.routine?
  split
  · split
    · exact hlookup _
    · rfl
  · rfl

/-- A routine of the machine does not hide the library. -/
theorem spares_ownNames {v : Value} {r : Routine} (hr : m'.routine? v = some r) :
    SparesLibrary r.ownNames := by
  unfold Machine.routine? at hr
  split at hr
  · split at hr
    · obtain ⟨front, rest, hlist, -⟩ := List.lookup_eq_some_iff.mp hr
      exact h.spares (_, r) (by rw [hlist]; exact List.mem_append_right _ List.mem_cons_self)
    · cases hr
  · cases hr

end Mirrors

/-! ## Statements -/

/-- What two ways of calling have to do with each other. -/
def CallersAgree (B : Bridge) (caller : Program.Caller) (caller' : Caller) : Prop :=
  ∀ sites m m' v vs, Mirrors B m m' →
    Agrees B Anything (caller sites m v vs) (caller' sites m' v vs)

/-- The machine after some debug calls on a line. -/
def runCalls (caller : Program.Caller) (file : Text) (sites : List Site) (scope : Scope) :
    Machine → List DebugCall → Machine × Except ProgramFault Unit
  | m, [] => (m, .ok ())
  | m, c :: cs =>
    andThen (c.run caller file sites scope m) fun m _ => runCalls caller file sites scope m cs

/-- What has to be shown about debug calls and remarks. -/
structure Bridge.Holds (B : Bridge) (file : Text) : Prop where
  own {m m' : Machine} (h : Mirrors B m m') (sites : List Site) (scope : Scope) (c : DebugCall) :
    Agrees B Anything (m.debug file sites scope c) (Direct.own (m'.debug file sites scope c))
  remark {m m' : Machine} (h : Mirrors B m m') {scope : Scope} (hs : scope.IsOpen) {n : Nat}
    {r : Remark} (hr : B.remarks n = some r) (caller : Program.Caller) (sites : List Site) :
    Agrees B Anything (runCalls caller file sites scope m (B.calls r))
      (r.perform file sites scope m')

section Statements

variable {caller : Program.Caller} {caller' : Caller} {file : Text} {scope : Scope}

theorem agrees_right (hc : CallersAgree B caller caller') (h : Mirrors B m m') (sites : List Site)
    (scope : Scope) (side : RightSide) :
    Agrees B Anything (side.run caller sites scope m) (right caller' sites scope m' side) := by
  cases side with
  | expr e =>
    have he : e.eval m.globals scope m.store = e.eval m'.globals scope m'.store := by
      rw [h.globals, h.store]
    rw [RightSide.run, right, he]
    cases e.eval m'.globals scope m'.store with
    | error e => exact .error (e := .own e) h
    | ok p => exact .ok (h.putStore p.1) trivial
  | call n arguments =>
    have ha : Expr.evalAll m.globals scope m.store arguments =
        Expr.evalAll m'.globals scope m'.store arguments := by rw [h.globals, h.store]
    rw [RightSide.run, right, h.lookup]
    cases Program.lookup m'.store m'.globals n scope with
    | error e => exact .error (e := .own e) h
    | ok f =>
      dsimp only
      rw [ha]
      cases Expr.evalAll m'.globals scope m'.store arguments with
      | error e => exact .error (e := .own e) h
      | ok p => exact hc _ _ _ _ _ (h.putStore p.1)

theorem agrees_debug (hB : B.Holds file) (h : Mirrors B m m') (hs : scope.IsOpen)
    (sites : List Site) (c : DebugCall) :
    Agrees B Anything (c.run caller file sites scope m) (debug caller' file sites scope m' c) := by
  have hfound := lookup_importWord m'.store h.unbound hs
  rw [DebugCall.run, debug, h.store, h.globals, hfound]
  dsimp only
  rw [if_pos equals_importWord, if_pos equals_importWord]
  exact hB.own h sites scope c

/-- The store after the value of an expression has been put at the end of a list. -/
def extended (globals : Entries) (σ : Store) (scope : Scope) (n : Text) (e : Expr) :
    Except ProgramFault Store :=
  match Program.lookup σ globals n scope with
  | .error e => .error e
  | .ok target =>
    match target, σ.view target with
    | .shared _ address, .list _ =>
      match e.eval globals scope σ with
      | .error e => .error e
      | .ok (σ, v) =>
        match σ.get? address with
        | some (.list items) => .ok (σ.put address (.list (items ++ [v])))
        | _ => .ok σ
    | _, w => .error w.appendFault

theorem extend_eq (m : Machine) (scope : Scope) (n : Text) (e : Expr) :
    m.extend scope n e =
      match extended m.globals m.store scope n e with
      | .error e => (m, .error e)
      | .ok σ => ({ m with store := σ }, .ok ()) := by
  unfold Machine.extend extended
  cases Program.lookup m.store m.globals n scope with
  | error e => rfl
  | ok target =>
    dsimp only
    generalize m.store.view target = w
    cases target with
    | shared kind address =>
      cases w with
      | list items =>
        dsimp only
        cases e.eval m.globals scope m.store with
        | error e => rfl
        | ok p =>
          dsimp only
          cases p.1.get? address with
          | none => rfl
          | some cell => cases cell <;> rfl
      | _ => rfl
    | _ => rfl

theorem agrees_extend (h : Mirrors B m m') (scope : Scope) (n : Text) (e : Expr) :
    Agrees B Anything (m.extend scope n e) (own (m'.extend scope n e)) := by
  have hx : extended m.globals m.store scope n e = extended m'.globals m'.store scope n e := by
    rw [h.globals, h.store]
  rw [extend_eq, extend_eq, hx]
  cases extended m'.globals m'.store scope n e with
  | error e => exact .error (e := .own e) h
  | ok σ => exact .ok (h.putStore σ) trivial

theorem isOpen_bind (hs : scope.IsOpen) (m : Machine) (n : Text) (v : Value) :
    (m.bind n v scope).2.IsOpen := by
  cases scope with
  | outside => trivial
  | inside names bound => exact hs

theorem snd_bind (m m' : Machine) (n : Text) (v : Value) (scope : Scope) :
    (m.bind n v scope).2 = (m'.bind n v scope).2 := by
  cases scope <;> rfl

theorem run_debug (m : Machine) (sites : List Site) (scope : Scope) (c : DebugCall) :
    Statement.run caller file sites scope m (.debug c) =
      andThen (c.run caller file sites scope m) fun m _ => (m, .ok (.next scope)) := by
  rw [Statement.run]
  rcases c.run caller file sites scope m with ⟨m, _ | _⟩ <;> rfl

theorem run_append (m : Machine) (sites : List Site) (scope : Scope) (n : Text) (e : Expr) :
    Statement.run caller file sites scope m (.append n e) =
      andThen (m.extend scope n e) fun m _ => (m, .ok (.next scope)) := by
  rw [Statement.run]
  rcases m.extend scope n e with ⟨m, _ | _⟩ <;> rfl

theorem run_assign (m : Machine) (sites : List Site) (scope : Scope) (n : Text)
    (side : RightSide) :
    Statement.run caller file sites scope m (.assign n side) =
      andThen (side.run caller sites scope m) fun m v =>
        ((m.bind n v scope).1, .ok (.next (m.bind n v scope).2)) := by
  rw [Statement.run]
  rcases side.run caller sites scope m with ⟨m, _ | _⟩ <;> rfl

theorem run_evaluate (m : Machine) (sites : List Site) (scope : Scope) (side : RightSide) :
    Statement.run caller file sites scope m (.evaluate side) =
      andThen (side.run caller sites scope m) fun m _ => (m, .ok (.next scope)) := by
  rw [Statement.run]
  rcases side.run caller sites scope m with ⟨m, _ | _⟩ <;> rfl

theorem run_leave (m : Machine) (sites : List Site) (scope : Scope) (side : RightSide) :
    Statement.run caller file sites scope m (.leave side) =
      andThen (side.run caller sites scope m) fun m v => (m, .ok (.leave v)) := by
  rw [Statement.run]
  rcases side.run caller sites scope m with ⟨m, _ | _⟩ <;> rfl

/-- **Statements agree**, remarks aside. -/
theorem agrees_run (hB : B.Holds file) (hc : CallersAgree B caller caller') (h : Mirrors B m m')
    (hs : scope.IsOpen) (sites : List Site) {s : Placed}
    (hpass : s.statement = .pass → B.remarks s.line = none)
    (hbinds : ∀ n ∈ s.statement.binds?, n ∉ libraryNames) :
    Agrees B GoesOn (s.statement.run caller file sites scope m)
      (run B.remarks caller' file sites scope m' s) := by
  obtain ⟨n, statement⟩ := s
  cases statement with
  | pass =>
    rw [Statement.run, run]
    dsimp only
    rw [hpass rfl]
    exact .ok h hs
  | debug c =>
    rw [run_debug]
    exact (agrees_debug hB h hs sites c).andThen fun m m' _ h _ => .ok h hs
  | append n e =>
    rw [run_append]
    exact (agrees_extend h scope n e).andThen fun m m' _ h _ => .ok h hs
  | assign n side =>
    -- the names of the library keep their meaning
    rw [run_assign]
    refine (agrees_right hc h sites scope side).andThen fun m m' v h _ => ?_
    rw [snd_bind m m']
    exact .ok (h.bind (hbinds n rfl) v) (isOpen_bind hs m' n v)
  | evaluate side =>
    rw [run_evaluate]
    exact (agrees_right hc h sites scope side).andThen fun m m' _ h _ => .ok h hs
  | leave side =>
    rw [run_leave]
    exact (agrees_right hc h sites scope side).andThen fun m m' v h _ => .ok h trivial

end Statements

/-! ## Functions and programs -/

section Programs

variable {caller : Program.Caller} {caller' : Caller} {file : Text} {scope : Scope}

theorem runBody_cons (caller : Program.Caller) (file : Text) (above : List Site) (code : Text)
    (scope : Scope) (m : Machine) (s : Placed) (rest : List Placed) :
    Program.runBody caller file above code scope m (s :: rest) =
      andThen (s.statement.run caller file (⟨s.line, code⟩ :: above) scope m) fun m flow =>
        match flow with
        | .leave v => (m, .ok v)
        | .next scope => Program.runBody caller file above code scope m rest := by
  rw [Program.runBody]
  rcases s.statement.run caller file (⟨s.line, code⟩ :: above) scope m with ⟨m, _ | _ | _⟩ <;> rfl

/-- The debug calls in the place of a remark, inside a function. -/
theorem runBody_calls (above : List Site) (code : Text) (n : Nat) (m : Machine)
    (cs : List DebugCall) (rest : List Placed) :
    Program.runBody caller file above code scope m
        ((cs.map fun c => ⟨n, .debug c⟩) ++ rest) =
      andThen (runCalls caller file (⟨n, code⟩ :: above) scope m cs) fun m _ =>
        Program.runBody caller file above code scope m rest := by
  induction cs generalizing m with
  | nil => rfl
  | cons c cs ih =>
    rw [List.map_cons, List.cons_append, runBody_cons, runCalls, Statement.run]
    dsimp only
    rcases c.run caller file (⟨n, code⟩ :: above) scope m with ⟨m, e | u⟩
    · rfl
    · exact ih m

theorem spread_cases (a : Nat → Option Remark) (cs : Remark → List DebugCall) (s : Placed) :
    (∃ r, s.statement = .pass ∧ a s.line = some r ∧
        spread a cs s = (cs r).map fun c => ⟨s.line, .debug c⟩) ∨
      (spread a cs s = [s] ∧ (s.statement = .pass → a s.line = none)) := by
  unfold spread
  split
  · next r hs ha => exact Or.inl ⟨r, hs, ha, rfl⟩
  · next hne =>
    refine Or.inr ⟨rfl, fun hs => ?_⟩
    cases ha : a s.line with
    | none => rfl
    | some r => exact absurd ha (hne r hs)

/-- **The statements of a function agree.** -/
theorem agrees_runBody (hB : B.Holds file) (hc : CallersAgree B caller caller')
    (above : List Site) (code : Text) {body : List Placed}
    (hbinds : ∀ s ∈ body, ∀ n ∈ s.statement.binds?, n ∉ libraryNames) {scope : Scope}
    (h : Mirrors B m m') (hs : scope.IsOpen) :
    Agrees B Anything
      (Program.runBody caller file above code scope m (body.flatMap (spread B.remarks B.calls)))
      (runBody B.remarks caller' file above code scope m' body) := by
  induction body generalizing scope m m' with
  | nil => exact .ok h trivial
  | cons s rest ih =>
    obtain ⟨hfirst, hrest⟩ := List.forall_mem_cons.mp hbinds
    rw [List.flatMap_cons, runBody]
    rcases spread_cases B.remarks B.calls s with ⟨r, hpass, hr, hspread⟩ | ⟨hspread, hpass⟩
    · -- the calls of a remark run before the statements behind it
      rw [hspread, runBody_calls, run, hpass]
      dsimp only
      rw [hr]
      have hperform := hB.remark h hs hr caller (⟨s.line, code⟩ :: above)
      rw [andThen_andThen]
      exact hperform.andThen fun m m' _ h _ => ih hrest h hs
    · rw [hspread, List.singleton_append, runBody_cons]
      refine (agrees_run hB hc h hs (⟨s.line, code⟩ :: above) hpass hfirst).andThen
        fun m m' flow h hflow => ?_
      cases flow with
      | leave v => exact .ok h trivial
      | next scope => exact ih hrest h hflow

theorem filterMap_binds?_calls (n : Nat) (cs : List DebugCall) :
    (cs.map fun c => (⟨n, .debug c⟩ : Placed)).filterMap (fun s => s.statement.binds?) = [] := by
  simp [Statement.binds?]

/-- Debug calls bind no names. -/
theorem ownNames_spreadRoutine (a : Nat → Option Remark) (cs : Remark → List DebugCall)
    (r : Routine) : (spreadRoutine a cs r).ownNames = r.ownNames := by
  have hbody : ∀ body : List Placed, (body.flatMap (spread a cs)).filterMap
      (fun s => s.statement.binds?) = body.filterMap fun s => s.statement.binds? := by
    intro body
    induction body with
    | nil => rfl
    | cons s rest ih =>
      rw [List.flatMap_cons, List.filterMap_append, ih]
      rcases spread_cases a cs s with ⟨r, hpass, -, hspread⟩ | ⟨hspread, -⟩
      · have hnone : s.statement.binds? = none := by rw [hpass]; rfl
        rw [hspread, filterMap_binds?_calls, List.nil_append, List.filterMap_cons, hnone]
      · rw [hspread, ← List.filterMap_append, List.singleton_append]
  rw [Routine.ownNames, Routine.ownNames]
  exact congrArg (r.parameters ++ ·) (hbody r.body)

theorem notMem_of_binds? {r : Routine} (h : SparesLibrary r.ownNames) :
    ∀ s ∈ r.body, ∀ n ∈ s.statement.binds?, n ∉ libraryNames := by
  intro s hs n hn
  exact h.notMem (List.mem_append_right _ (List.mem_filterMap.mpr ⟨s, hs, hn⟩))

/-- **Calls of functions agree**, however deep they may go. -/
theorem agrees_call (hB : B.Holds file) (depth : Nat) :
    CallersAgree B (Program.call file depth) (call B.remarks file depth) := by
  induction depth with
  | zero => exact fun sites m m' v vs h => .error (e := .own .tooDeep) h
  | succ depth ih =>
    intro sites m m' v vs h
    rw [Program.call, call, h.routine?]
    cases hr : m'.routine? v with
    | none => exact .error (e := .own v.callFault) h
    | some r =>
      have hown := h.spares_ownNames hr
      have hopen : Scope.IsOpen (.inside r.ownNames (r.parameters.zip vs)) :=
        hown _ List.mem_cons_self
      dsimp only [Option.map_some]
      by_cases hlen : vs.length = r.parameters.length
      · rw [if_pos hlen, if_pos (by exact hlen), ownNames_spreadRoutine]
        exact agrees_runBody hB ih sites r.name (notMem_of_binds? hown) h hopen
      · rw [if_neg hlen, if_neg (by exact hlen)]
        exact .error (e := .own (argumentFault r vs.length)) h

/-- The names that an item binds. -/
def itemNames : Item → List Text
  | .statement s => s.statement.binds?.toList
  | .routine r => r.name :: r.ownNames

theorem runItems_statement (file : Text) (m : Machine) (s : Placed) (rest : List Item) :
    Program.runItems file m (.statement s :: rest) =
      andThen (s.statement.run (Program.call file maxDepth) file [⟨s.line, moduleCode⟩] .outside m)
        fun m _ => Program.runItems file m rest := by
  rw [Program.runItems]
  rcases s.statement.run (Program.call file maxDepth) file [⟨s.line, moduleCode⟩] .outside m with
    ⟨m, _ | _⟩ <;> rfl

/-- The debug calls in the place of a remark, outside functions. -/
theorem runItems_calls (n : Nat) (m : Machine) (cs : List DebugCall) (rest : List Item) :
    Program.runItems file m
        (((cs.map fun c => (⟨n, .debug c⟩ : Placed)).map Item.statement) ++ rest) =
      andThen (runCalls (Program.call file maxDepth) file [⟨n, moduleCode⟩] .outside m cs)
        fun m _ => Program.runItems file m rest := by
  induction cs generalizing m with
  | nil => rfl
  | cons c cs ih =>
    rw [List.map_cons, List.map_cons, List.cons_append, runItems_statement, runCalls, Statement.run]
    dsimp only
    rcases c.run (Program.call file maxDepth) file [⟨n, moduleCode⟩] .outside m with ⟨m, e | u⟩
    · rfl
    · exact ih m

/-- **Programs agree.** -/
theorem agrees_runItems (hB : B.Holds file) {items : List Item}
    (hi : ∀ i ∈ items, SparesLibrary (itemNames i)) (h : Mirrors B m m') :
    Agrees B Anything (Program.runItems file m (items.flatMap (spreadItem B.remarks B.calls)))
      (runItems B.remarks file m' items) := by
  induction items generalizing m m' with
  | nil => exact .ok h trivial
  | cons i rest ih =>
    obtain ⟨hfirst, hrest⟩ := List.forall_mem_cons.mp hi
    rw [List.flatMap_cons]
    cases i with
    | routine r =>
      have hname : r.name ∉ libraryNames := hfirst.notMem List.mem_cons_self
      have hown : SparesLibrary r.ownNames := fun n hn hm =>
        hfirst n hn (List.mem_cons_of_mem _ hm)
      exact ih hrest (h.define hname hown)
    | statement s =>
      have hopen : Scope.IsOpen .outside := trivial
      rw [spreadItem, runItems]
      rcases spread_cases B.remarks B.calls s with ⟨r, hpass, hr, hspread⟩ | ⟨hspread, hpass⟩
      · -- outside functions a remark is performed in the same way
        rw [hspread, runItems_calls, run, hpass]
        dsimp only
        rw [hr, andThen_andThen]
        have hperform := hB.remark h hopen hr (Program.call file maxDepth) [⟨s.line, moduleCode⟩]
        exact hperform.andThen fun m m' _ h _ => ih hrest h
      · rw [hspread, List.map_singleton, List.singleton_append, runItems_statement]
        have hbinds : ∀ n ∈ s.statement.binds?, n ∉ libraryNames := fun n hn =>
          hfirst.notMem (Option.mem_toList.mpr hn)
        have hrun := agrees_run hB (agrees_call hB maxDepth) h hopen [⟨s.line, moduleCode⟩] hpass
          hbinds
        exact hrun.andThen fun m m' _ h _ => ih hrest h

end Programs

end Direct

end Marginalia
