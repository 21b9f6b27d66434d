import Marginalia.Filter
import Marginalia.Program.Machine
import Marginalia.Program.Reader
import Marginalia.Value.Settled

/-!
# Running a text with its directives

A text is filtered, read as a program and run under the names that it finds. A file is run under
names of its own.

## Main definitions

* `Namespace`: names with their values before a run
* `RunFault`: why a run ends early
* `Outlets.run`: a text run under some names, inside some calls
* `Outlets.runText`, `Outlets.runFile`: a text or a file run by the library

## Main results

* `Outlets.run_of_filter_error`: a text that cannot be filtered does nothing
-/

namespace Marginalia

/-- Names with their values before a run. -/
structure Namespace where
  /-- The containers that the values refer to. -/
  store : Store
  /-- The names and their values. -/
  entries : Entries
  /-- The first identity that is not in use. -/
  nextId : Nat

/-- The names that a text is run under where none are given. -/
def Namespace.default : Namespace :=
  ⟨Store.empty, [(.text Program.unitKey, .text "__debugcomments__".toList)], 0⟩

/-- The names that a file is run under. -/
def Namespace.ofFile (path : Text) : Namespace :=
  ⟨Store.empty,
    [(.text Program.unitKey, .text "__main__".toList),
      (.text "__file__".toList, .text path)], 0⟩

/-- The name of the file of a text that comes from none. -/
def defaultFile : Text := "<debugcomments>".toList

/-- Why a run ends early. -/
inductive RunFault where
  /-- The file cannot be read. -/
  | unreadable (e : FileFault)
  /-- The text cannot be filtered. -/
  | filter (e : FilterFault)
  /-- The filtered text of a file is no program. -/
  | notProgram (file : Text) (e : SyntaxFault)
  /-- The program stops. -/
  | program (e : ProgramFault)
  deriving DecidableEq, Repr

/-- The class and the words of the fault. -/
def RunFault.failure : RunFault → Failure
  | unreadable e => ⟨e.className, e.message⟩
  | filter e => e.failure
  | notProgram file e => e.failure file
  | program e => e.failure

/-- The machine that a run leaves, and why it ended early where it did. -/
abbrev Run := Program.Machine × Except RunFault Unit

/-! ## The calls that run a program -/

/-- The part of the library that runs programs. -/
def runnerUnit : Text := "debugcomments.runner".toList

/-- A call of a routine of that part, which is found under a directory. -/
def runnerFrame (directory routine : Text) (line : Int) : Frame where
  unit? := some (.text runnerUnit)
  file := directory ++ "/debugcomments/runner.py".toList
  line := line
  code := routine

/-- The call that runs a text. -/
def textFrame (directory : Text) : Frame := runnerFrame directory "run_source".toList 60

/-- The call that runs a file, by running its text. -/
def fileFrame (directory : Text) : Frame := runnerFrame directory "run_path".toList 70

namespace Outlets

/-- The machine before a run, under some names, after some notices and inside some calls. -/
def machine (o : Outlets) (notices : List Notice) (names : Namespace) (below : List Frame) :
    Program.Machine :=
  let (σ, globals) := names.store.settled names.entries
  ⟨o, notices, σ, globals, [], names.nextId, below⟩

/-- A program run on a machine. -/
def runItems (m : Program.Machine) (file : Text) :
    Except SyntaxFault (List Program.Item) → Run
  | .error e => (m, .error (.notProgram file e))
  | .ok items =>
    match Program.runItems file m items with
    | (m, .ok ()) => (m, .ok ())
    | (m, .error e) => (m, .error (.program e))

/-- A text run under some names, after some notices and inside some calls. -/
def run (o : Outlets) (notices : List Notice) (below : List Frame) (setup : Setup) (file : Text)
    (names : Namespace) (s : Text) : Run :=
  match setup.filter o.files s with
  | (more, .error e) => (o.machine (notices ++ more) names below, .error (.filter e))
  | (more, .ok t) => runItems (o.machine (notices ++ more) names below) file (Program.items t)

/-- A text run under some names by a library that is found under a directory. -/
def runText (o : Outlets) (directory : Text) (setup : Setup) (file : Text) (names : Namespace)
    (s : Text) : Run :=
  o.run [] [textFrame directory] setup file names s

/-- A file run as a program of its own by a library that is found under a directory. -/
def runFile (o : Outlets) (directory : Text) (setup : Setup) (path : Text) : Run :=
  let names := Namespace.ofFile path
  let below := [textFrame directory, fileFrame directory]
  match o.files.readText path with
  | .error e => (o.machine [] names below, .error (.unreadable e))
  | .ok s => o.run [.running path] below setup path names s

/-- **A text that cannot be filtered does nothing.** -/
theorem run_of_filter_error {o : Outlets} {notices more : List Notice} {below : List Frame}
    {setup : Setup} {file : Text} {names : Namespace} {s : Text} {e : FilterFault}
    (h : setup.filter o.files s = (more, .error e)) :
    (o.run notices below setup file names s).1.outlets = o := by
  simp [run, h, machine]

end Outlets

end Marginalia
