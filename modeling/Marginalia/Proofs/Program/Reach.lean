import Marginalia.Proofs.Program.Code
import Marginalia.Proofs.Remark.Simulation
import Mathlib.Logic.Relation

/-!
# What a run reaches

A run of a program goes from statement to statement. Where a statement calls a function, the run
goes on inside it, above the calls that were in progress before. So a run reaches stacks of calls,
each at the statement that it is about to run or has been held up by, and every call but the last
one is there because the statement of the next one has entered it.

## Main definitions

* `Program.Statement.call?`: the call that a statement makes
* `Program.Visit`: a call in progress, at a statement
* `Program.Step`: how a run goes on from one stack of calls to another
* `Program.Reaches`: the stacks of calls that a run reaches
* `Program.InProgress`: what holds of them

## Main results

* `Program.run_congr`: a statement calls nothing but what its entry says
* `Program.InProgress.step`, `Program.inProgress_of_reaches`: what a run has still to do when it
  reaches a stack of calls
-/

namespace Marginalia

namespace Program

open Direct

variable {caller caller' : Caller} {file : Text} {sites : List Site} {scope : Scope}
  {m m' : Machine}

/-! ## Calls of statements -/

/-- A call that a statement makes. -/
structure Entry where
  /-- The containers, with those that the arguments have made. -/
  store : Store
  /-- What is called. -/
  callee : Value
  /-- The arguments. -/
  arguments : List Value

/-- What the call does. -/
def Entry.enter (e : Entry) (caller : Caller) (sites : List Site) (m : Machine) :
    Machine × Except ProgramFault Value :=
  caller sites { m with store := e.store } e.callee e.arguments

/-- The call that a right side makes. -/
def RightSide.call? (m : Machine) (scope : Scope) : RightSide → Option Entry
  | .expr _ => none
  | .call n arguments =>
    match lookup m.store m.globals n scope, Expr.evalAll m.globals scope m.store arguments with
    | .ok f, .ok (σ, vs) => some ⟨σ, f, vs⟩
    | _, _ => none

/-- The call that a statement makes. A debug call makes one where the name of the library is bound
to something else. -/
def Statement.call? (m : Machine) (scope : Scope) : Statement → Option Entry
  | .assign _ side | .evaluate side | .leave side => side.call? m scope
  | .debug _ =>
    match lookup m.store m.globals Invocation.importWord scope with
    | .ok v =>
      if Value.equals v (standardFunction Invocation.importWord) then none
      else some ⟨m.store, v, [.text Invocation.libraryName]⟩
    | .error _ => none
  | .append _ _ | .pass => none

theorem right_congr (side : RightSide)
    (h : ∀ e, side.call? m scope = some e → e.enter caller sites m = e.enter caller' sites m) :
    side.run caller sites scope m = side.run caller' sites scope m := by
  cases side with
  | expr e => rfl
  | call n arguments =>
    rw [RightSide.call?] at h
    rw [RightSide.run, RightSide.run]
    cases hf : lookup m.store m.globals n scope with
    | error e => rfl
    | ok f =>
      cases ha : Expr.evalAll m.globals scope m.store arguments with
      | error e => rfl
      | ok p =>
        obtain ⟨σ, vs⟩ := p
        rw [hf, ha] at h
        exact h ⟨σ, f, vs⟩ rfl

theorem debug_congr (c : DebugCall)
    (h : ∀ e, (Statement.debug c).call? m scope = some e →
      e.enter caller sites m = e.enter caller' sites m) :
    c.run caller file sites scope m = c.run caller' file sites scope m := by
  rw [Statement.call?] at h
  rw [DebugCall.run, DebugCall.run]
  cases hf : lookup m.store m.globals Invocation.importWord scope with
  | error e => rfl
  | ok v =>
    rw [hf] at h
    dsimp only at h ⊢
    by_cases hv : Value.equals v (standardFunction Invocation.importWord) = true
    · rw [if_pos hv, if_pos hv]
    · rw [if_neg hv] at h
      have henter : caller sites m v [.text Invocation.libraryName] =
          caller' sites m v [.text Invocation.libraryName] := h _ rfl
      rw [if_neg hv, if_neg hv, henter]

/-- **A statement calls nothing but what its entry says.** -/
theorem run_congr (s : Statement)
    (h : ∀ e, s.call? m scope = some e → e.enter caller sites m = e.enter caller' sites m) :
    s.run caller file sites scope m = s.run caller' file sites scope m := by
  cases s with
  | pass => rfl
  | append n e => rfl
  | debug c => rw [run_debug, run_debug, debug_congr c h]
  | assign n side => rw [run_assign, run_assign, right_congr side h]
  | evaluate side => rw [run_evaluate, run_evaluate, right_congr side h]
  | leave side => rw [run_leave, run_leave, right_congr side h]

/-! ## Functions stay as they are -/

/-- What a call does to the functions of a machine: nothing. -/
def KeepsRoutines (caller : Caller) : Prop :=
  ∀ sites m v vs, (caller sites m v vs).1.routines = m.routines

theorem routines_andThen {ε α β : Type} {x : Machine × Except ε α}
    {f : Machine → α → Machine × Except ε β} (hx : x.1.routines = m.routines)
    (hf : ∀ m a, (f m a).1.routines = m.routines) : (andThen x f).1.routines = m.routines := by
  rcases x with ⟨m', e | a⟩
  · exact hx
  · exact (hf m' a).trans hx

theorem routines_debug (m : Machine) (file : Text) (sites : List Site) (scope : Scope)
    (c : DebugCall) : (m.debug file sites scope c).1.routines = m.routines := by
  unfold Machine.debug Machine.reveal
  split
  · rfl
  · unfold Machine.accept
    split <;> rfl

theorem routines_right (hc : KeepsRoutines caller) (sites : List Site) (scope : Scope) (m : Machine)
    (side : RightSide) : (side.run caller sites scope m).1.routines = m.routines := by
  cases side with
  | expr e =>
    rw [RightSide.run]
    split <;> rfl
  | call n arguments =>
    rw [RightSide.run]
    split
    · rfl
    · split
      · rfl
      · exact hc _ _ _ _

theorem routines_bind (m : Machine) (n : Text) (v : Value) (scope : Scope) :
    (m.bind n v scope).1.routines = m.routines := by
  cases scope <;> rfl

/-- **A statement defines no functions.** -/
theorem routines_run (hc : KeepsRoutines caller) (file : Text) (sites : List Site) (scope : Scope)
    (m : Machine) (s : Statement) : (s.run caller file sites scope m).1.routines = m.routines := by
  cases s with
  | pass => rfl
  | debug c =>
    have hcall : (c.run caller file sites scope m).1.routines = m.routines := by
      rw [DebugCall.run]
      split
      · rfl
      · -- what stands for the library may be called
        split
        · exact routines_debug m file sites scope c
        · next v _ _ =>
          have h := hc sites m v [.text Invocation.libraryName]
          split <;> next hv => rw [hv] at h; exact h
    rw [run_debug]
    exact routines_andThen hcall fun _ _ => rfl
  | append n e =>
    have hextend : (m.extend scope n e).1.routines = m.routines := by
      rw [extend_eq]
      split <;> rfl
    rw [run_append]
    exact routines_andThen hextend fun _ _ => rfl
  | assign n side =>
    rw [run_assign]
    exact routines_andThen (routines_right hc _ _ _ _) fun m v => routines_bind m n v scope
  | evaluate side =>
    rw [run_evaluate]
    exact routines_andThen (routines_right hc _ _ _ _) fun _ _ => rfl
  | leave side =>
    rw [run_leave]
    exact routines_andThen (routines_right hc _ _ _ _) fun _ _ => rfl

theorem routines_runBody (hc : KeepsRoutines caller) (above : List Site) (code : Text)
    (body : List Placed) :
    (runBody caller file above code scope m body).1.routines = m.routines := by
  induction body generalizing scope m with
  | nil => rfl
  | cons s rest ih =>
    rw [runBody_cons]
    refine routines_andThen (routines_run hc _ _ _ _ _) fun m flow => ?_
    cases flow with
    | leave v => rfl
    | next scope => exact ih

/-- Calls define no functions. -/
theorem keepsRoutines_call (file : Text) (depth : Nat) : KeepsRoutines (call file depth) := by
  induction depth with
  | zero => exact fun _ _ _ _ => rfl
  | succ depth ih =>
    intro sites m v vs
    rw [call]
    split
    · rfl
    · split
      · exact routines_runBody ih _ _ _
      · rfl

/-! ## Stacks of calls -/

/-- A call in progress, at a statement. -/
structure Visit where
  /-- The name of the code. -/
  code : Text
  /-- The names bound so far. -/
  scope : Scope
  /-- The machine before the statement. -/
  machine : Machine
  /-- The number of calls that may be in progress above this one. -/
  depth : Nat
  /-- The statement. -/
  current : Placed
  /-- What follows it in the code. -/
  rest : List Item

/-- Where the call is. -/
def Visit.site (v : Visit) : Site := ⟨v.current.line, v.code⟩

/-- What the statement of a call does above other calls. -/
def Visit.run (file : Text) (below : List Visit) (v : Visit) : Machine × Except ProgramFault Flow :=
  v.current.statement.run (call file v.depth) file ((v :: below).map Visit.site) v.scope v.machine

/-- The first statement of some items and what follows it, with the machine in front of it, which
has the functions that come before. -/
def Machine.next? (m : Machine) : List Item → Option (Machine × Placed × List Item)
  | [] => none
  | .routine r :: rest => (m.define r).next? rest
  | .statement s :: rest => some (m, s, rest)

/-- How a run goes on from one stack of calls to another. -/
inductive Step (file : Text) : List Visit → List Visit → Prop
  | next {v : Visit} {vs : List Visit} {m m' : Machine} {scope : Scope} {s : Placed}
    {rest : List Item} (hrun : v.run file vs = (m, .ok (.next scope)))
    (hnext : m.next? v.rest = some (m', s, rest)) :
    Step file (v :: vs) (⟨v.code, scope, m', v.depth, s, rest⟩ :: vs)
  | enter {v : Visit} {vs : List Visit} {e : Entry} {r : Routine} {depth : Nat} {s : Placed}
    {rest : List Placed} (he : v.current.statement.call? v.machine v.scope = some e)
    (hr : v.machine.routine? e.callee = some r)
    (ha : e.arguments.length = r.parameters.length) (hd : v.depth = depth + 1)
    (hb : r.body = s :: rest) :
    Step file (v :: vs) (⟨r.name, .inside r.ownNames (r.parameters.zip e.arguments),
      { v.machine with store := e.store }, depth, s, rest.map .statement⟩ :: v :: vs)

/-- The stacks of calls that a run of some items reaches. -/
def Reaches (file : Text) (m : Machine) (items : List Item) (vs : List Visit) : Prop :=
  ∃ m' s rest, m.next? items = some (m', s, rest) ∧
    Relation.ReflTransGen (Step file) [⟨moduleCode, .outside, m', maxDepth, s, rest⟩] vs

/-- The call is in the code of this name. -/
structure Visit.StandsIn (items : List Item) (name : Option Text) (v : Visit) : Prop where
  code : v.code = codeName name
  exists_code : ∃ code, IsCode items name code ∧ .statement v.current :: v.rest <:+ code

/-- The statement of a call has entered the function that another call is in. -/
def Visit.Enters (v w : Visit) : Prop :=
  ∃ e r, v.current.statement.call? v.machine v.scope = some e ∧
    v.machine.routine? e.callee = some r ∧ w.code = r.name ∧ w.current ∈ r.body

/-- The functions of a machine are those of a program. -/
def Machine.Knows (items : List Item) (m : Machine) : Prop :=
  ∀ p ∈ m.routines, Item.routine p.2 ∈ items

/-- **The calls in progress in a run of some items**, and what the run has still to do: the rest of
the code for the last one, and for every other one the rest of the function that has been
entered. -/
inductive InProgress (file : Text) (m : Machine) (items : List Item) : List Visit → Prop
  | outside {v : Visit} (hcode : .statement v.current :: v.rest <:+ items)
    (hname : v.code = moduleCode) (hscope : v.scope = .outside) (hdepth : v.depth = maxDepth)
    (hknows : v.machine.Knows items)
    (hrun : runItems file m items = runItems file v.machine (.statement v.current :: v.rest)) :
    InProgress file m items [v]
  | inside {w v : Visit} {vs : List Visit} {e : Entry} {r : Routine} {rest : List Placed}
    (he : v.current.statement.call? v.machine v.scope = some e)
    (hr : v.machine.routine? e.callee = some r) (hcode : w.current :: rest <:+ r.body)
    (hrest : w.rest = rest.map .statement) (hname : w.code = r.name)
    (hknows : w.machine.Knows items)
    (hrun : e.enter (call file v.depth) ((v :: vs).map Visit.site) v.machine =
      runBody (call file w.depth) file ((v :: vs).map Visit.site) w.code w.scope w.machine
        (w.current :: rest))
    (t : InProgress file m items (v :: vs)) : InProgress file m items (w :: v :: vs)

section InProgress

variable {items : List Item} {v w : Visit} {vs ws : List Visit}

/-! ## One step -/

theorem mem_of_routine? {v : Value} {r : Routine} (h : m.routine? v = some r) :
    ∃ k, (k, r) ∈ m.routines := by
  unfold Machine.routine? at h
  split at h
  · split at h
    · obtain ⟨front, rest, hlist, -⟩ := List.lookup_eq_some_iff.mp h
      exact ⟨_, by rw [hlist]; exact List.mem_append_right _ List.mem_cons_self⟩
    · cases h
  · cases h

/-- On the way to the next statement functions are defined. -/
theorem next?_eq_some {is rest : List Item} {s : Placed} (h : m.next? is = some (m', s, rest)) :
    .statement s :: rest <:+ is ∧ (∀ items, is ⊆ items → m.Knows items → m'.Knows items) ∧
      ∀ file, runItems file m is = runItems file m' (.statement s :: rest) := by
  induction is generalizing m with
  | nil => cases h
  | cons i is ih =>
    cases i with
    | statement s' =>
      cases h
      exact ⟨List.suffix_rfl, fun _ _ h => h, fun _ => rfl⟩
    | routine r =>
      obtain ⟨hsuffix, hknows, hrun⟩ := ih h
      refine ⟨hsuffix.trans (List.suffix_cons _ _), fun items hsub hm => ?_, hrun⟩
      obtain ⟨hr, hsub⟩ := List.cons_subset.mp hsub
      exact hknows items hsub (List.forall_mem_cons.mpr ⟨hr, hm⟩)

/-- The next statement of a function. -/
theorem next?_statements {ss : List Placed} {rest : List Item} {s : Placed}
    (h : m.next? (ss.map .statement) = some (m', s, rest)) :
    m' = m ∧ ∃ ss', ss = s :: ss' ∧ rest = ss'.map .statement := by
  cases ss with
  | nil => cases h
  | cons s' ss => cases h; exact ⟨rfl, ss, rfl, rfl⟩

/-- A statement outside functions is followed by one outside functions. -/
theorem eq_outside_of_run {s : Statement}
    (h : s.run caller file sites .outside m = (m', .ok (.next scope))) : scope = .outside := by
  have hnext : ∀ {α : Type} (x : Machine × Except ProgramFault α)
      {f : Machine → α → Machine × Except ProgramFault Flow},
      (∀ m a, ∀ scope, (f m a).2 = .ok (.next scope) → scope = .outside) →
        andThen x f = (m', .ok (.next scope)) → scope = .outside := by
    rintro α ⟨m, e | a⟩ f hf h
    · cases h
    · exact hf m a scope (congrArg Prod.snd h)
  have hself : ∀ scope' : Scope, (Except.ok (.next .outside) : Except ProgramFault Flow) =
      .ok (.next scope') → scope' = .outside := by
    rintro scope' ⟨⟩
    rfl
  cases s with
  | pass => exact hself _ (congrArg Prod.snd h)
  | debug c => rw [run_debug] at h; exact hnext _ (fun _ _ => hself) h
  | append n e => rw [run_append] at h; exact hnext _ (fun _ _ => hself) h
  | assign n side => rw [run_assign] at h; exact hnext _ (fun _ _ => hself) h
  | evaluate side => rw [run_evaluate] at h; exact hnext _ (fun _ _ => hself) h
  | leave side => rw [run_leave] at h; exact hnext _ (by rintro m v scope ⟨⟩) h

theorem knows_of_run (hv : v.machine.Knows items) {flow : Except ProgramFault Flow}
    (h : v.run file vs = (m, flow)) : m.Knows items := by
  have hsame : (v.run file vs).1.routines = v.machine.routines :=
    routines_run (keepsRoutines_call file v.depth) _ _ _ _ _
  rw [h] at hsame
  rw [Machine.Knows, hsame]
  exact hv

/-- **One step of a run** leaves calls in progress. -/
theorem InProgress.step {start : Machine} (h : InProgress file start items vs)
    (hstep : Step file vs ws) : InProgress file start items ws := by
  cases hstep with
  | @next v vs m m' scope s rest hrun hnext =>
    cases h with
    | outside hcode hname hscope hdepth hknows hitems =>
      obtain ⟨hsuffix, hmore, hrest⟩ := next?_eq_some hnext
      have hsub : v.rest <:+ items := (List.suffix_cons _ _).trans hcode
      have hthis : runItems file v.machine (.statement v.current :: v.rest) =
          runItems file m v.rest := by
        rw [runItems_statement, ← hdepth, ← hname, ← hscope]
        exact congrArg (fun x => andThen x fun m _ => runItems file m v.rest) hrun
      refine .outside (hsuffix.trans hsub) hname ?_ hdepth
        (hmore items hsub.subset (knows_of_run hknows hrun)) ?_
      · rw [Visit.run, hscope] at hrun
        exact eq_outside_of_run hrun
      · exact hitems.trans (hthis.trans (hrest file))
    | @inside v u us e r body he hr hcode hbody hname hknows hcall t =>
      -- the call of the function goes on with the rest of its body
      rw [hbody] at hnext
      obtain ⟨rfl, body', rfl, rfl⟩ := next?_statements hnext
      refine .inside he hr ((List.suffix_cons _ _).trans hcode) rfl hname
        (knows_of_run hknows hrun) ?_ t
      rw [hcall, runBody_cons]
      exact congrArg (fun x => andThen x _) hrun
  | @enter v vs e r depth s rest he hr ha hd hb =>
    have hknows : v.machine.Knows items := by
      cases h with
      | outside _ _ _ _ hknows _ => exact hknows
      | inside _ _ _ _ _ hknows _ _ => exact hknows
    refine .inside he hr (hb ▸ List.suffix_rfl) rfl rfl hknows ?_ h
    have hr' : Machine.routine? { v.machine with store := e.store } e.callee = some r := hr
    rw [Entry.enter, hd, call, hr']
    dsimp only
    rw [if_pos ha, hb]

/-- **A run reaches calls in progress**, and has still to do what is left of them. -/
theorem inProgress_of_reaches (hm : m.Knows items) (h : Reaches file m items vs) :
    InProgress file m items vs := by
  obtain ⟨m', s, rest, hnext, hsteps⟩ := h
  obtain ⟨hsuffix, hknows, hrun⟩ := next?_eq_some hnext
  induction hsteps with
  | refl =>
    exact .outside hsuffix rfl rfl rfl (hknows items (List.Subset.refl _) hm) (hrun file)
  | tail _ hstep ih => exact ih.step hstep

/-! ## Where calls stand -/

theorem InProgress.standsIn (h : InProgress file m items vs) :
    ∀ v ∈ vs, ∃ name, v.StandsIn items name := by
  induction h with
  | @outside v hcode hname _ _ _ _ =>
    exact List.forall_mem_singleton.mpr ⟨none, hname, items, .outside, hcode⟩
  | @inside w v vs e r rest he hr hcode hrest hname hknows _ t ih =>
    refine List.forall_mem_cons.mpr ⟨?_, ih⟩
    have hmem : Item.routine r ∈ items := by
      obtain ⟨k, hk⟩ := mem_of_routine? hr
      cases t with
      | outside _ _ _ _ hknows _ => exact hknows _ hk
      | inside _ _ _ _ _ hknows _ _ => exact hknows _ hk
    refine ⟨some r.name, hname, _, .inside hmem, ?_⟩
    rw [hrest, ← List.map_cons]
    exact hcode.map _

/-- **Every call but the last one has been entered** by the statement of the next one. -/
theorem InProgress.isChain (h : InProgress file m items vs) :
    List.IsChain (fun w v => v.Enters w) vs := by
  induction h with
  | outside => exact .singleton _
  | inside he hr hcode _ hname _ _ _ ih =>
    exact .cons_cons ⟨_, _, he, hr, hname, hcode.subset List.mem_cons_self⟩ ih

end InProgress

end Program

end Marginalia
