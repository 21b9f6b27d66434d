import Marginalia.Value.Basic

/-!
# Host programs

The programs that hold directives: assignments, calls of functions defined in the program, and
additions to lists, besides the debug calls that directives turn into. There are no branches and no
loops.

## Main definitions

* `Program.Expr`: expressions
* `Program.DebugCall`: calls that show something
* `Program.Statement`: statements
* `Program.Routine`: functions
* `Program.Item`: what a program lists
-/

namespace Marginalia

namespace Program

/-- Operators between two operands. -/
inductive Operator where
  | plus
  | minus
  | times
  deriving DecidableEq, Repr

/-- Expressions. -/
inductive Expr where
  /-- The value bound to a name. -/
  | name (n : Text)
  /-- A value written out. -/
  | literal (v : Value)
  /-- An item of a value; negative places count from the end. -/
  | item (e : Expr) (place : Int)
  /-- A new list. -/
  | list (items : List Expr)
  /-- A new tuple. -/
  | tuple (items : List Expr)
  /-- A new set. -/
  | set (items : List Expr)
  /-- A new dictionary. -/
  | dict (entries : List (Expr × Expr))
  /-- A number with its sign, or with the other sign. -/
  | signed (minus : Bool) (e : Expr)
  /-- Two expressions under an operator. -/
  | binary (op : Operator) (left right : Expr)
  deriving Repr, Inhabited

/-- The word for the class of sets, of which the empty set is called. -/
def setWord : Text := Kind.set.name

/-- Whether places of items may stand behind the expression. -/
def Expr.hasPlaces : Expr → Bool
  | name _ => true
  | item _ _ => true
  | _ => false

/-- Calls that show something. A destination that is empty or none is the error stream. -/
inductive DebugCall where
  /-- Shows a text. -/
  | message (destination : Expr) (s : Text)
  /-- Shows the values of expressions under names. -/
  | dump (destination format : Expr) (entries : List (Text × Expr))
  /-- Shows calls in progress. -/
  | trace (destination : Expr) (depth : Int) (format : Expr)
  deriving Repr

/-- What gives a value: an expression or a call. -/
inductive RightSide where
  | expr (e : Expr)
  /-- A call of the value bound to a name. -/
  | call (n : Text) (arguments : List Expr)
  deriving Repr

/-- Statements. -/
inductive Statement where
  /-- Binds a name. -/
  | assign (n : Text) (right : RightSide)
  /-- Puts a value at the end of the list bound to a name. -/
  | append (n : Text) (e : Expr)
  /-- Leaves a function with a value. -/
  | leave (right : RightSide)
  /-- Finds a value and forgets it. -/
  | evaluate (right : RightSide)
  /-- Does nothing. -/
  | pass
  /-- Makes a debug call. -/
  | debug (call : DebugCall)
  deriving Repr

/-- A statement and the line it stands on. -/
structure Placed where
  /-- The line. -/
  line : Nat
  /-- The statement. -/
  statement : Statement
  deriving Repr

/-- A function. -/
structure Routine where
  /-- The line it starts on. -/
  line : Nat
  /-- Its name. -/
  name : Text
  /-- The names of its parameters. -/
  parameters : List Text
  /-- Its statements. -/
  body : List Placed
  deriving Repr

/-- What a program lists: statements and functions. -/
inductive Item where
  | statement (s : Placed)
  | routine (r : Routine)
  deriving Repr

/-- The name that a statement binds. -/
def Statement.binds? : Statement → Option Text
  | assign n _ => some n
  | _ => none

/-- The names that belong to a function: its parameters and what its statements bind, wherever the
binding stands. -/
def Routine.ownNames (r : Routine) : List Text :=
  r.parameters ++ r.body.filterMap fun s => s.statement.binds?

end Program

end Marginalia
