import Marginalia.Invocation
import Marginalia.Program.Delivery
import Marginalia.Program.Evaluation

/-!
# Running programs

A machine holds what a running program can see and change. Debug calls write to the outlets and
leave everything else as it was: the containers that a dump makes are gone when it is over.

## Main definitions

* `Program.Machine`: what a running program can see and change
* `Program.Machine.debug`: the machine after a debug call
* `Program.Statement.run`: the machine after a statement
* `Program.call`: the machine after a call of a function
* `Program.runItems`: the machine after a program

## Main results

* `Program.Machine.debug_globals`, `Program.Machine.debug_store`: debug calls change neither names
  nor containers
-/

namespace Marginalia

namespace Program

/-- What a running program can see and change. -/
structure Machine where
  /-- Where debug output goes. -/
  outlets : Outlets
  /-- The notices so far. -/
  notices : List Notice
  /-- The containers that names share. -/
  store : Store
  /-- The names of the program and their values, in order of their first binding. -/
  globals : Entries
  /-- The functions by their identities. -/
  routines : List (Nat × Routine)
  /-- The first identity that is not in use. -/
  nextId : Nat
  /-- The calls in progress that the program is run by, innermost first. -/
  below : List Frame

/-- A place in the code that is being run. -/
structure Site where
  /-- The line. -/
  line : Nat
  /-- The name of the code. -/
  code : Text
  deriving DecidableEq, Repr

namespace Machine

/-- The function that a value is. -/
def routine? (m : Machine) : Value → Option Routine
  | .foreign o =>
    match o.identity with
    | .made number => m.routines.lookup number
    | _ => none
  | _ => none

/-- The calls in progress at some sites of a file, innermost first, and those below the program. -/
def frames (m : Machine) (file : Text) (sites : List Site) : List Frame :=
  sites.map (fun s => ⟨Value.lookup? unitKey m.globals, file, s.line, s.code⟩) ++ m.below

/-- The machine after a delivery. -/
def accept (m : Machine) (d : Delivery) : Machine × Except ProgramFault Unit :=
  let m := { m with outlets := d.outlets, notices := m.notices ++ d.notices }
  match d.result with
  | .ok _ => (m, .ok ())
  | .error e => (m, .error (.delivery e))

/-- The machine after content has been delivered, or why there is none. What the content refers to
is in the store that comes with it, which is seen by this delivery only. -/
def reveal (m : Machine) :
    Except ProgramFault (Store × Value × Value × Content) → Machine × Except ProgramFault Unit
  | .error e => (m, .error e)
  | .ok (σ, destination, format, content) =>
    m.accept (m.outlets.deliverTo σ destination format content)

/-- What a debug call shows, where and in which format. -/
def shownBy (m : Machine) (file : Text) (sites : List Site) (scope : Scope) :
    DebugCall → Except ProgramFault (Store × Value × Value × Content)
  | .message destination s => do
    let (σ, d) ← destination.eval m.globals scope m.store
    return (σ, d, .none, .message s)
  | .dump destination format entries => do
    let (σ, d) ← destination.eval m.globals scope m.store
    let (σ, f) ← format.eval m.globals scope σ
    let (σ, pairs) ← evalEntries m.globals scope σ entries
    return (σ, d, f, .table (Value.entriesOf pairs))
  | .trace destination depth format => do
    let (σ, d) ← destination.eval m.globals scope m.store
    let (σ, f) ← format.eval m.globals scope σ
    return (σ, d, f, .table (Trace.payload (Trace.collect (m.frames file sites) depth 0)))

/-- The machine after a debug call. -/
def debug (m : Machine) (file : Text) (sites : List Site) (scope : Scope) (c : DebugCall) :
    Machine × Except ProgramFault Unit :=
  m.reveal (m.shownBy file sites scope c)

@[simp] theorem accept_globals (m : Machine) (d : Delivery) :
    (m.accept d).1.globals = m.globals := by
  unfold accept
  cases d.result <;> rfl

@[simp] theorem accept_store (m : Machine) (d : Delivery) : (m.accept d).1.store = m.store := by
  unfold accept
  cases d.result <;> rfl

/-- **Debug calls bind no names.** -/
@[simp] theorem debug_globals (m : Machine) (file : Text) (sites : List Site) (scope : Scope)
    (c : DebugCall) : (m.debug file sites scope c).1.globals = m.globals := by
  unfold debug reveal
  split <;> simp

/-- **Debug calls change no containers.** -/
@[simp] theorem debug_store (m : Machine) (file : Text) (sites : List Site) (scope : Scope)
    (c : DebugCall) : (m.debug file sites scope c).1.store = m.store := by
  unfold debug reveal
  split <;> simp

/-- The unit of the functions that the program makes now. -/
def unitText (m : Machine) : Text :=
  match Value.lookup? unitKey m.globals with
  | some (.text s) => s
  | some v => ((m.store.expand v).literal.toOption).getD []
  | none => "None".toList

/-- A new function as a value. -/
def routineValue (m : Machine) (r : Routine) : Value :=
  .foreign ⟨.made m.nextId, "function".toList,
    .shown (Text.enclosed "<function ".toList ['>'] r.name), some (inUnit m.unitText r.name)⟩

/-- The machine after a new function has been bound to its name. -/
def define (m : Machine) (r : Routine) : Machine :=
  { m with
    globals := Value.insert (.text r.name) (m.routineValue r) m.globals
    routines := (m.nextId, r) :: m.routines
    nextId := m.nextId + 1 }

end Machine

/-- What follows a statement: the next one, or the end of a function. -/
inductive Flow where
  /-- The next statement, under the names bound so far. -/
  | next (scope : Scope)
  /-- The function ends with a value. -/
  | leave (v : Value)
  deriving Repr

/-- What calling a value with arguments does, above some sites. -/
abbrev Caller := List Site → Machine → Value → List Value → Machine × Except ProgramFault Value

/-- The value of the right side of a statement. -/
def RightSide.run (caller : Caller) (sites : List Site) (scope : Scope) (m : Machine) :
    RightSide → Machine × Except ProgramFault Value
  | .expr e =>
    match e.eval m.globals scope m.store with
    | .error e => (m, .error e)
    | .ok (σ, v) => ({ m with store := σ }, .ok v)
  | .call n arguments =>
    match lookup m.store m.globals n scope with
    | .error e => (m, .error e)
    | .ok f =>
      match Expr.evalAll m.globals scope m.store arguments with
      | .error e => (m, .error e)
      | .ok (σ, vs) => caller sites { m with store := σ } f vs

/-- The machine and the names after a name has been bound. -/
def Machine.bind (m : Machine) (n : Text) (v : Value) : Scope → Machine × Scope
  | .outside => ({ m with globals := Value.insert (.text n) v m.globals }, .outside)
  | .inside names bound => (m, .inside names ((n, v) :: bound))

/-- The machine after the value of an expression has been put at the end of a list. -/
def Machine.extend (m : Machine) (scope : Scope) (n : Text) (e : Expr) :
    Machine × Except ProgramFault Unit :=
  match lookup m.store m.globals n scope with
  | .error e => (m, .error e)
  | .ok target =>
    match target, m.store.view target with
    | .shared _ address, .list _ =>
      match e.eval m.globals scope m.store with
      | .error e => (m, .error e)
      | .ok (σ, v) =>
        match σ.get? address with
        | some (.list items) => ({ m with store := σ.put address (.list (items ++ [v])) }, .ok ())
        | _ => ({ m with store := σ }, .ok ())
    | _, w => (m, .error w.appendFault)

/-- The name of the function of the library that a debug call is for. -/
def DebugCall.function : DebugCall → Text
  | message _ _ => Invocation.messageFunction
  | dump _ _ _ => Invocation.dumpFunction
  | trace _ _ _ => Invocation.traceFunction

/-- The machine after a debug call of a program. The library is found through a name, and a program
that binds the name to something else does not find it. -/
def DebugCall.run (caller : Caller) (file : Text) (sites : List Site) (scope : Scope) (m : Machine)
    (c : DebugCall) : Machine × Except ProgramFault Unit :=
  match lookup m.store m.globals Invocation.importWord scope with
  | .error e => (m, .error e)
  | .ok v =>
    if Value.equals v (standardFunction Invocation.importWord) then m.debug file sites scope c
    else
      match caller sites m v [.text Invocation.libraryName] with
      | (m, .error e) => (m, .error e)
      | (m, .ok w) => (m, .error (.noPart w.subject c.function))

/-- The machine after a statement, and what follows. -/
def Statement.run (caller : Caller) (file : Text) (sites : List Site) (scope : Scope)
    (m : Machine) : Statement → Machine × Except ProgramFault Flow
  | .pass => (m, .ok (.next scope))
  | .debug c =>
    match c.run caller file sites scope m with
    | (m, .error e) => (m, .error e)
    | (m, .ok ()) => (m, .ok (.next scope))
  | .append n e =>
    match m.extend scope n e with
    | (m, .error e) => (m, .error e)
    | (m, .ok ()) => (m, .ok (.next scope))
  | .assign n right =>
    match right.run caller sites scope m with
    | (m, .error e) => (m, .error e)
    | (m, .ok v) =>
      let (m, scope) := m.bind n v scope
      (m, .ok (.next scope))
  | .evaluate right =>
    match right.run caller sites scope m with
    | (m, .error e) => (m, .error e)
    | (m, .ok _) => (m, .ok (.next scope))
  | .leave right =>
    match right.run caller sites scope m with
    | (m, .error e) => (m, .error e)
    | (m, .ok v) => (m, .ok (.leave v))

/-- The machine after the statements of a function, and its value. -/
def runBody (caller : Caller) (file : Text) (above : List Site) (code : Text) :
    Scope → Machine → List Placed → Machine × Except ProgramFault Value
  | _, m, [] => (m, .ok .none)
  | scope, m, s :: rest =>
    match s.statement.run caller file (⟨s.line, code⟩ :: above) scope m with
    | (m, .error e) => (m, .error e)
    | (m, .ok (.leave v)) => (m, .ok v)
    | (m, .ok (.next scope)) => runBody caller file above code scope m rest

/-- Why a function cannot be called with so many arguments. -/
def argumentFault (r : Routine) (given : Nat) : ProgramFault :=
  if r.parameters.length < given then .surplus r.name r.parameters.length given
  else .missing r.name (r.parameters.drop given)

/-- The machine after a call of a value with arguments; at most the given number of calls are in
progress at a time. -/
def call (file : Text) : Nat → Caller
  | 0, _, m, _, _ => (m, .error .tooDeep)
  | depth + 1, above, m, f, arguments =>
    match m.routine? f with
    | none => (m, .error f.callFault)
    | some r =>
      if arguments.length = r.parameters.length then
        runBody (call file depth) file above r.name
          (.inside r.ownNames (r.parameters.zip arguments)) m r.body
      else (m, .error (argumentFault r arguments.length))

/-- The greatest number of calls in progress. -/
def maxDepth : Nat := 1000

/-- The machine after some items of a program. -/
def runItems (file : Text) : Machine → List Item → Machine × Except ProgramFault Unit
  | m, [] => (m, .ok ())
  | m, .routine r :: rest => runItems file (m.define r) rest
  | m, .statement s :: rest =>
    match s.statement.run (call file maxDepth) file [⟨s.line, moduleCode⟩] .outside m with
    | (m, .error e) => (m, .error e)
    | (m, .ok _) => runItems file m rest

namespace Machine

/-- Whether a name is shown after a run: it does not start with two low lines and is bound to no
function. -/
def isShown (m : Machine) (n : Text) (v : Value) : Bool :=
  !Text.startsWith ['_', '_'] n && (m.routine? v).isNone

/-- The literals of the values that are shown after a run. -/
def literals (m : Machine) : Entries → Except RenderFault (List (Text × Text))
  | [] => .ok []
  | (.text n, v) :: rest =>
    if m.isShown n v then
      match (m.store.expand v).literal with
      | .error e => .error e
      | .ok s => (m.literals rest).map ((n, s) :: ·)
    else m.literals rest
  | _ :: rest => m.literals rest

/-- The names that are shown after a run and the literals of their values. -/
def shown (m : Machine) : Except RenderFault (List (Text × Text)) := m.literals m.globals

end Machine

end Program

end Marginalia
