import Marginalia.Program.Operation
import Marginalia.Program.Standard

/-!
# Evaluating expressions

An expression has a value in a scope: the names of the function that is running, and below them the
names of the program. A container is kept in the store, so that two names can share it.

## Main definitions

* `Program.Scope`: the names of the code that is running
* `Program.lookup`: the value bound to a name
* `Program.Expr.eval`: the value of an expression, and the store after it

## Main results

* `Program.lookup_global`: a name that belongs to no function is a name of the program
-/

namespace Marginalia

namespace Program

/-- The names of the code that is running. -/
inductive Scope where
  /-- Code outside functions has the names of the program only. -/
  | outside
  /-- A function has names of its own, and values for some of them, the latest first. -/
  | inside (names : List Text) (bound : List (Text × Value))
  deriving Repr

/-- The value that the language has under a name. -/
def lookupStandard (n : Text) : Except ProgramFault Value :=
  match standard? n with
  | some v => .ok v
  | none => .error (if undescribed.contains n then .beyond n else .unbound n)

/-- The value under a name in what stands in the place of the names of the language. Only a
dictionary is described here. -/
def lookupInstead (σ : Store) (names : Value) (n : Text) : Except ProgramFault Value :=
  match σ.view names with
  | .dict entries =>
    match Value.lookup? n entries with
    | some v => .ok v
    | none => .error (.unbound n)
  | _ => .error (.beyond namesWord)

/-- The value bound to a name of the program, or else of every program. A program may be run under
names that put others in the place of those of the language. -/
def lookupGlobal (σ : Store) (globals : Entries) (n : Text) : Except ProgramFault Value :=
  match Value.lookup? n globals, Value.lookup? namesWord globals with
  | some v, _ => .ok v
  | none, some names => lookupInstead σ names n
  | none, none => lookupStandard n

/-- The value bound to a name. -/
def lookup (σ : Store) (globals : Entries) (n : Text) : Scope → Except ProgramFault Value
  | .outside => lookupGlobal σ globals n
  | .inside names bound =>
    if names.contains n then
      match bound.lookup n with
      | some v => .ok v
      | none => .error (.unassigned n)
    else lookupGlobal σ globals n

/-- **A name that belongs to no function is a name of the program.** -/
theorem lookup_global (σ : Store) (globals : Entries) {n : Text} {names : List Text}
    (h : n ∉ names) (bound : List (Text × Value)) :
    lookup σ globals n (.inside names bound) = lookup σ globals n .outside := by
  simp [lookup, h]

/-- Whether the name of sets stands for the class of the language, or why it does not. -/
def findSet (σ : Store) (globals : Entries) (scope : Scope) : Except ProgramFault Unit :=
  match lookup σ globals setWord scope with
  | .error e => .error e
  | .ok v => if v.standardName? = some setWord then .ok () else .error (.beyond setWord)

mutual

/-- The value of an expression, and the store with the containers it made. -/
def Expr.eval (globals : Entries) (scope : Scope) (σ : Store) : Expr → Outcome
  | .name n => (lookup σ globals n scope).map (σ, ·)
  | .literal v => .ok (σ, v)
  | .item e place =>
    match Expr.eval globals scope σ e with
    | .error e => .error e
    | .ok (σ, v) => (σ.item v place).map (σ, ·)
  | .list items => (Expr.evalAll globals scope σ items).map fun (σ, vs) => keep σ .list (.list vs)
  | .tuple items =>
    (Expr.evalAll globals scope σ items).map fun (σ, vs) => keep σ .tuple (.tuple vs)
  | .set [] => (findSet σ globals scope).map fun _ => keep σ .set (.set [])
  | .set items =>
    match Expr.evalAll globals scope σ items with
    | .error e => .error e
    | .ok (σ, vs) => (σ.keys vs).map fun vs => keep σ .set (σ.setOf vs)
  | .dict entries =>
    match Expr.evalPairs globals scope σ entries with
    | .error e => .error e
    | .ok (σ, pairs) =>
      (σ.keys (pairs.map Prod.fst)).map fun _ => keep σ .dict (.dict (σ.entriesOf pairs))
  | .signed minus e =>
    match Expr.eval globals scope σ e with
    | .error e => .error e
    | .ok (σ, v) => (withSign minus v).map (σ, ·)
  | .binary op left right =>
    match Expr.eval globals scope σ left with
    | .error e => .error e
    | .ok (σ, v) =>
      match Expr.eval globals scope σ right with
      | .error e => .error e
      | .ok (σ, w) => operate op σ v w

/-- The values of expressions from left to right. -/
def Expr.evalAll (globals : Entries) (scope : Scope) (σ : Store) :
    List Expr → Except ProgramFault (Store × List Value)
  | [] => .ok (σ, [])
  | e :: es =>
    match Expr.eval globals scope σ e with
    | .error e => .error e
    | .ok (σ, v) => (Expr.evalAll globals scope σ es).map fun (σ, vs) => (σ, v :: vs)

/-- The keys and values of entries from left to right. -/
def Expr.evalPairs (globals : Entries) (scope : Scope) (σ : Store) :
    List (Expr × Expr) → Except ProgramFault (Store × Entries)
  | [] => .ok (σ, [])
  | (k, e) :: rest =>
    match Expr.eval globals scope σ k with
    | .error e => .error e
    | .ok (σ, key) =>
      match Expr.eval globals scope σ e with
      | .error e => .error e
      | .ok (σ, v) =>
        (Expr.evalPairs globals scope σ rest).map fun (σ, pairs) => (σ, (key, v) :: pairs)

end

/-- The dictionary of named expressions from left to right. -/
def evalEntries (globals : Entries) (scope : Scope) (σ : Store) :
    List (Text × Expr) → Except ProgramFault (Store × Entries)
  | [] => .ok (σ, [])
  | (n, e) :: rest =>
    match e.eval globals scope σ with
    | .error e => .error e
    | .ok (σ, v) =>
      (evalEntries globals scope σ rest).map fun (σ, pairs) => (σ, (.text n, v) :: pairs)

end Program

end Marginalia
