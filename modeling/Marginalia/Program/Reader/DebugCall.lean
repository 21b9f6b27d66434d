import Marginalia.Invocation
import Marginalia.Program.Reader.Expr

/-!
# Reading debug calls

Debug calls are read in the form in which directives are written out.

## Main definitions

* `Program.debugCall?`: the debug call that tokens are
* `Program.debugCalls?`: the debug calls that the tokens of a line are
-/

namespace Marginalia

namespace Program

/-- The parts of a list between the members that are separators. -/
def splitOn {α : Type} (separates : α → Bool) : List α → List (List α)
  | [] => [[]]
  | a :: as =>
    if separates a then [] :: splitOn separates as
    else
      match splitOn separates as with
      | [] => [[a]]
      | part :: parts => (a :: part) :: parts

/-- The tokens of the statements on a line, which semicolons separate. One may stand at the end. -/
def statementTokens (ts : List Token) : List (List Token) :=
  let parts := splitOn (fun t => decide (t = .mark ';')) ts
  if 1 < parts.length ∧ parts.getLast? = some [] then parts.dropLast else parts

/-- The name of an entry. -/
def entryName? : Expr × Expr → Option (Text × Expr)
  | (.literal (.text n), e) => some (n, e)
  | _ => none

/-- The debug call of a function of the library with arguments. -/
def callOf? (function : Text) (arguments : List Expr) : Option DebugCall :=
  match arguments with
  | [destination, .literal (.text s)] =>
    if function = Invocation.messageFunction then some (.message destination s) else none
  | [destination, format, .dict entries] =>
    if function = Invocation.dumpFunction then
      (entries.mapM entryName?).map (.dump destination format)
    else none
  | [destination, .literal (.int depth), format] =>
    if function = Invocation.traceFunction then some (.trace destination depth format) else none
  | _ => none

/-- The debug call that tokens are. -/
def debugCall? : List Token → Option DebugCall
  | .name n :: .mark '(' :: .text library :: .mark ')' :: .mark '.' :: .name function :: .mark '('
      :: rest =>
    if n = Invocation.importWord ∧ library = Invocation.libraryName then
      match readItems ')' (enough rest) rest with
      | some (arguments, _, []) => callOf? function arguments
      | _ => none
    else none
  | _ => none

/-- The debug calls that the tokens of a line are. -/
def debugCalls? (ts : List Token) : Option (List DebugCall) :=
  (statementTokens ts).mapM debugCall?

end Program

end Marginalia
