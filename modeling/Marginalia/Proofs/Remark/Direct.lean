import Marginalia.Proofs.Remark.Source
import Marginalia.Run

/-!
# Running a text that performs its remarks itself

A text is run as the program of its own lines. Where a line holds the place of a remark, the remark
is performed there: a message is written and a dump is evaluated, rendered and written, without any
name of the library being looked up. A trace of the calls in progress follows where the tag of the
remark asks for one.

## Main definitions

* `Direct.Stop`: why such a text stops
* `Remark.perform`: the machine after a remark
* `Direct.run`: the machine after a statement
* `Direct.runItems`: the machine after a program
* `Outlets.runDirect`: a text run in this way
-/

namespace Marginalia

open Program

/-- The text that a name is; an empty one stands for none. -/
def Value.named? : Value → Option Text
  | .text s => if s.isEmpty then Option.none else some s
  | _ => Option.none

namespace Direct

/-- Why a text stops that performs its remarks itself. -/
inductive Stop where
  /-- A statement of its own cannot be run. -/
  | own (e : ProgramFault)
  /-- An entry of a dump has no value. -/
  | entry (e : ProgramFault)
  /-- A remark is written to what is no path. -/
  | delivery (e : FileFault)
  deriving DecidableEq, Repr

/-- The fault of the program that shows. -/
def Stop.fault : Stop → ProgramFault
  | own e => e
  | entry e => e
  | delivery e => .delivery e

/-- What follows a run, unless it stops. -/
def andThen {ε α β : Type} (x : Machine × Except ε α) (f : Machine → α → Machine × Except ε β) :
    Machine × Except ε β :=
  match x with
  | (m, .error e) => (m, .error e)
  | (m, .ok a) => f m a

/-- What a statement of the text itself does. -/
def own {α : Type} : Machine × Except ProgramFault α → Machine × Except Stop α
  | (m, .ok a) => (m, .ok a)
  | (m, .error e) => (m, .error (.own e))

/-- The machine after a delivery. -/
def receive (m : Machine) (d : Delivery) : Machine × Except Stop Unit :=
  ({ m with outlets := d.outlets, notices := m.notices ++ d.notices },
    match d.result with
    | .ok _ => .ok ()
    | .error e => .error (.delivery e))

end Direct

/-! ## Remarks -/

namespace Remark

open Direct

/-- The machine after the message or the dump of a remark. A message is written with a line feed at
its end. -/
def reveal (r : Remark) (scope : Scope) (m : Machine) : Machine × Except Stop Unit :=
  match r.shows with
  | .message s => receive m (m.outlets.send [] r.tag.target.named? (s ++ ['\n']))
  | .dump entries =>
    match evalEntries m.globals scope m.store entries with
    | .error e => (m, .error (.entry e))
    | .ok (σ, pairs) =>
      receive m (m.outlets.deliver σ r.tag.target.named? r.tag.format.named?
        (.table (Value.entriesOf pairs)))

/-- The machine after the trace of a remark. -/
def trace (r : Remark) (file : Text) (sites : List Site) (m : Machine) :
    Machine × Except Stop Unit :=
  if r.tag.depth ≤ 0 then (m, .ok ())
  else
    receive m (m.outlets.deliverTrace m.store r.tag.target.named? r.tag.depth r.tag.format.named?
      (m.frames file sites))

/-- The machine after a remark. -/
def perform (r : Remark) (file : Text) (sites : List Site) (scope : Scope) (m : Machine) :
    Machine × Except Stop Unit :=
  andThen (r.reveal scope m) fun m _ => r.trace file sites m

end Remark

/-! ## Statements -/

namespace Direct

/-- What calling a value with arguments does, above some sites. -/
abbrev Caller := List Site → Machine → Value → List Value → Machine × Except Stop Value

/-- The value of the right side of a statement. -/
def right (caller : Caller) (sites : List Site) (scope : Scope) (m : Machine) :
    RightSide → Machine × Except Stop Value
  | .expr e =>
    match e.eval m.globals scope m.store with
    | .error e => (m, .error (.own e))
    | .ok (σ, v) => ({ m with store := σ }, .ok v)
  | .call n arguments =>
    match lookup m.store m.globals n scope with
    | .error e => (m, .error (.own e))
    | .ok f =>
      match Expr.evalAll m.globals scope m.store arguments with
      | .error e => (m, .error (.own e))
      | .ok (σ, vs) => caller sites { m with store := σ } f vs

/-- The machine after a debug call that a text makes itself. -/
def debug (caller : Caller) (file : Text) (sites : List Site) (scope : Scope) (m : Machine)
    (c : DebugCall) : Machine × Except Stop Unit :=
  match lookup m.store m.globals Invocation.importWord scope with
  | .error e => (m, .error (.own e))
  | .ok v =>
    if Value.equals v (standardFunction Invocation.importWord) then
      own (m.debug file sites scope c)
    else
      andThen (caller sites m v [.text Invocation.libraryName]) fun m w =>
        (m, .error (.own (.noPart w.subject c.function)))

/-- The machine after a statement, and what follows. Where the statement holds the place of a
remark, the remark is performed. -/
def run (a : Nat → Option Remark) (caller : Caller) (file : Text) (sites : List Site)
    (scope : Scope) (m : Machine) (s : Placed) : Machine × Except Stop Flow :=
  match s.statement with
  | .pass =>
    match a s.line with
    | none => (m, .ok (.next scope))
    | some r => andThen (r.perform file sites scope m) fun m _ => (m, .ok (.next scope))
  | .debug c => andThen (debug caller file sites scope m c) fun m _ => (m, .ok (.next scope))
  | .append n e => andThen (own (m.extend scope n e)) fun m _ => (m, .ok (.next scope))
  | .assign n side =>
    andThen (right caller sites scope m side) fun m v =>
      let (m, scope) := m.bind n v scope
      (m, .ok (.next scope))
  | .evaluate side =>
    andThen (right caller sites scope m side) fun m _ => (m, .ok (.next scope))
  | .leave side => andThen (right caller sites scope m side) fun m v => (m, .ok (.leave v))

/-- The machine after the statements of a function, and its value. -/
def runBody (a : Nat → Option Remark) (caller : Caller) (file : Text) (above : List Site)
    (code : Text) : Scope → Machine → List Placed → Machine × Except Stop Value
  | _, m, [] => (m, .ok .none)
  | scope, m, s :: rest =>
    andThen (run a caller file (⟨s.line, code⟩ :: above) scope m s) fun m flow =>
      match flow with
      | .leave v => (m, .ok v)
      | .next scope => runBody a caller file above code scope m rest

/-- The machine after a call of a value with arguments; at most the given number of calls are in
progress at a time. -/
def call (a : Nat → Option Remark) (file : Text) : Nat → Caller
  | 0, _, m, _, _ => (m, .error (.own .tooDeep))
  | depth + 1, above, m, f, arguments =>
    match m.routine? f with
    | none => (m, .error (.own f.callFault))
    | some r =>
      if arguments.length = r.parameters.length then
        runBody a (call a file depth) file above r.name
          (.inside r.ownNames (r.parameters.zip arguments)) m r.body
      else (m, .error (.own (argumentFault r arguments.length)))

/-- The machine after some items of a program. -/
def runItems (a : Nat → Option Remark) (file : Text) :
    Machine → List Item → Machine × Except Stop Unit
  | m, [] => (m, .ok ())
  | m, .routine r :: rest => runItems a file (m.define r) rest
  | m, .statement s :: rest =>
    andThen (run a (call a file maxDepth) file [⟨s.line, moduleCode⟩] .outside m s) fun m _ =>
      runItems a file m rest

/-- Why a text does not run to its end. -/
inductive Fault where
  /-- The own lines of the text are no program. -/
  | notProgram (file : Text) (e : SyntaxFault)
  /-- The program stops. -/
  | stop (e : Stop)
  deriving DecidableEq, Repr

/-- The fault that shows. -/
def Fault.fault : Fault → RunFault
  | notProgram file e => .notProgram file e
  | stop e => .program e.fault

end Direct

/-- A text run under some names, after some notices and inside some calls, that performs the remarks
of some tags itself. -/
def Outlets.runDirect (o : Outlets) (notices : List Notice) (below : List Frame) (tags : List Tag)
    (file : Text) (names : Namespace) (s : Text) : Machine × Except Direct.Fault Unit :=
  match Program.items (Remark.held tags s) with
  | .error e => (o.machine notices names below, .error (.notProgram file e))
  | .ok items =>
    match Direct.runItems (Remark.at? tags s) file (o.machine notices names below) items with
    | (m, .ok ()) => (m, .ok ())
    | (m, .error e) => (m, .error (.stop e))

end Marginalia
