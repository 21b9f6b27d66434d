import Marginalia.Program.Line
import Marginalia.Program.Operation
import Marginalia.Program.Reader.Expr

/-!
# Literals

A text is the literal of a value if all of it is one expression without names and operators:
constants, numbers with a sign, and lists, tuples, sets and dictionaries of literals. It starts at
the margin; while a bracket is open, further lines belong to it, and blanks and line ends between
tokens mean nothing there.

## Main definitions

* `Program.Expr.value?`: the value that an expression is the literal of
* `Program.literalValue?`: the value that a text is the literal of
-/

namespace Marginalia

namespace Program

/-- Whether the value can be a key. -/
def isKey (v : Value) : Bool := v.unhashable?.isNone

mutual

/-- The value that an expression is the literal of. A sign stands in front of numbers only. -/
def Expr.value? : Expr → Option Value
  | .literal v => some v
  | .signed minus (.literal (.int i)) => some (.int (if minus then -i else i))
  | .signed minus (.literal (.float x)) => some (.float (if minus then x.negate else x))
  | .list items => (Expr.values? items).map .list
  | .tuple items => (Expr.values? items).map .tuple
  | .set items =>
    match Expr.values? items with
    | some vs => if vs.all isKey then some (Value.setOf id vs) else none
    | none => none
  | .dict entries =>
    match Expr.pairs? entries with
    | some pairs =>
      if pairs.all fun pair => isKey pair.1 then some (.dict (Value.entriesOf pairs)) else none
    | none => none
  | _ => none

/-- The values that expressions are the literals of. -/
def Expr.values? : List Expr → Option (List Value)
  | [] => some []
  | e :: es =>
    match Expr.value? e with
    | some v => (Expr.values? es).map (v :: ·)
    | none => none

/-- The keys and values that pairs of expressions are the literals of. -/
def Expr.pairs? : List (Expr × Expr) → Option Entries
  | [] => some []
  | (k, e) :: rest =>
    match Expr.value? k, Expr.value? e with
    | some key, some v => (Expr.pairs? rest).map ((key, v) :: ·)
    | _, _ => none

end

/-- The value that a text is the literal of. -/
def literalValue? (s : Text) : Option Value :=
  match lines s with
  | .ok [line] => if line.depth = 0 then (expr? line.tokens).bind Expr.value? else none
  | _ => none

end Program

end Marginalia
