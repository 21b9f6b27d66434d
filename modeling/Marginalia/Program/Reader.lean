import Marginalia.Program.Line
import Marginalia.Program.Reader.DebugCall
import Marginalia.Program.Standard

/-!
# Reading programs

A line holds statements with semicolons between them, or the first line of a function. The
statements of a function stand one level deeper than its first line, everything else stands at the
margin. A statement stands on one line, so that no bracket is open at the end of a line.

The language is small: a statement binds a name, calls a function and may bind its value, puts a
value at the end of a list, leaves a function, shows something or does nothing. An expression alone
is no statement; a text in the first place would bind a name.

## Main definitions

* `Program.statement?`: the statement that tokens are
* `Program.header?`: the name and the parameters that the first line of a function gives
* `Program.items`: the program that a text is, or why it is none
-/

namespace Marginalia

namespace Program

/-- The words of statements. -/
def passWord : Text := "pass".toList

@[inherit_doc passWord]
def leaveWord : Text := "return".toList

@[inherit_doc passWord]
def routineWord : Text := "def".toList

@[inherit_doc passWord]
def appendWord : Text := "append".toList

/-- The value that a function is left with; without one it is none. -/
def leaving? (ts : List Token) : Option RightSide :=
  if ts.isEmpty then some (.expr (.literal .none)) else rightSide? ts

/-- The value that a method puts at the end of a list. -/
def appended? (method : Text) (ts : List Token) : Option Expr :=
  if method = appendWord then
    match readExpr (enough ts) ts with
    | some (e, [.mark ')']) => some e
    | _ => none
  else none

/-- The call that tokens are, with its value forgotten. -/
def forgotten? (ts : List Token) : Option Statement :=
  match rightSide? ts with
  | some (.call n arguments) => some (.evaluate (.call n arguments))
  | _ => none

/-- Whether a program may bind a name. -/
def isBindable (n : Text) : Bool := !fixedNames.contains n

/-- The statement that tokens are. -/
def statement? (ts : List Token) : Option Statement :=
  match debugCall? ts, ts with
  | some call, _ => some (.debug call)
  | none, .keyword s :: rest =>
    if s = passWord ∧ rest.isEmpty then some .pass
    else if s = leaveWord then (leaving? rest).map .leave
    else none
  | none, .name n :: .mark '=' :: rest =>
    if isBindable n then (rightSide? rest).map (.assign n) else none
  | none, .name n :: .mark '.' :: .name method :: .mark '(' :: rest =>
    (appended? method rest).map (.append n)
  | none, _ => forgotten? ts

/-- The statements of a line. -/
def statements? (line : Line) : Option (List Placed) :=
  (statementTokens line.tokens).mapM fun ts => (statement? ts).map (⟨line.number, ·⟩)

/-- The parameters of a function up to the end of its first line. -/
def parameters? : List Token → Option (List Text)
  | [.mark ')', .mark ':'] => some []
  | [.name n, .mark ')', .mark ':'] => some [n]
  | .name n :: .mark ',' :: rest => (parameters? rest).map (n :: ·)
  | _ => none

/-- The name and the parameters of a function, from its first line. -/
def header? : List Token → Option (Text × List Text)
  | .keyword d :: .name n :: .mark '(' :: rest =>
    match parameters? rest with
    | some parameters =>
      if d = routineWord ∧ (n :: parameters).all isBindable then some (n, parameters) else none
    | none => none
  | _ => none

/-- The code that a line may belong to. -/
inductive Block where
  /-- Code outside functions. -/
  | outside
  /-- A function that starts on the line above. -/
  | begun (line : Nat)
  /-- A function with statements. -/
  | inside
  deriving DecidableEq, Repr

/-- Why a line of some depth cannot stand in a block. -/
def Block.refuses? (b : Block) (depth : Nat) : Option SyntaxCause :=
  match b, depth with
  | begun line, 0 => some (.noBlock line)
  | outside, _ + 1 => some .unexpectedIndent
  | _, _ + 2 => some .unexpectedIndent
  | _, _ => none

/-- The statements of the function that is open at the first line, and the items after it. The text
has `last` lines. -/
def gather (last : Nat) : Block → List Line → Except SyntaxFault (List Placed × List Item)
  | .begun line, [] => .error ⟨last, .noBlock line⟩
  | _, [] => .ok ([], [])
  | block, line :: rest =>
    match block.refuses? line.depth with
    | some cause => .error ⟨line.number, cause⟩
    | none =>
      match header? line.tokens, statements? line, line.depth with
      | some (n, parameters), _, 0 =>
        (gather last (.begun line.number) rest).map fun (body, items) =>
          ([], .routine ⟨line.number, n, parameters, body⟩ :: items)
      | _, some statements, 0 =>
        (gather last .outside rest).map fun (body, items) =>
          (body, statements.map .statement ++ items)
      | _, some statements, _ =>
        (gather last .inside rest).map fun (body, items) => (statements ++ body, items)
      | _, none, _ => .error ⟨line.number, .malformed⟩

/-- The first parameter that has the name of another one in front of it. -/
def repeated? (seen : List Text) : List Text → Option Text
  | [] => none
  | n :: rest => if seen.contains n then some n else repeated? (n :: seen) rest

/-- What is wrong with the names of an item. -/
def Item.nameFault? : Item → Option SyntaxFault
  | routine r => (repeated? [] r.parameters).map fun n => ⟨r.line, .repeatedParameter n⟩
  | statement _ => none

/-- What is wrong with the place of an item. -/
def Item.placeFault? : Item → Option SyntaxFault
  | statement ⟨line, .leave _⟩ => some ⟨line, .leaveOutside⟩
  | _ => none

/-- Items with nothing wrong, or the first fault: one with names comes before one with places. -/
def checked (items : List Item) : Except SyntaxFault (List Item) :=
  match items.findSome? Item.nameFault?, items.findSome? Item.placeFault? with
  | some e, _ => .error e
  | none, some e => .error e
  | none, none => .ok items

/-- The number of lines of a text; one that ends its line has no further line. -/
def lineCount (s : Text) : Nat :=
  let s := s.unixLines
  s.count '\n' + if s.getLast?.any (· != '\n') then 1 else 0

/-- What is wrong with the brackets of a line: too many of them are open at a time, or one is open
at its end. -/
def bracketFault? (number : Nat) (raw : Text) : Option SyntaxCause :=
  match tokens number [] raw with
  | .error cause => some cause
  | .ok (ts, opened) =>
    if maxNesting < nesting 0 ts then some .tooNested
    else if opened.isEmpty then none
    else some .malformed

/-- The first fault with brackets among the lines of a text, numbered from `number` on. -/
def bracketFaultFrom? (number : Nat) : List Text → Option SyntaxFault
  | [] => none
  | raw :: rest =>
    match bracketFault? number raw with
    | some cause => some ⟨number, cause⟩
    | none => bracketFaultFrom? (number + 1) rest

/-- The program that a text is, or why it is none. -/
def items (s : Text) : Except SyntaxFault (List Item) :=
  if s.any fun c => c.toNat == 0 then .error ⟨0, .nullByte⟩
  else
    match lines s, bracketFaultFrom? 1 (s.unixLines.splitAt '\n') with
    | .error e, _ => .error e
    | .ok _, some e => .error e
    | .ok lines, none =>
      match gather (lineCount s) .outside lines with
      | .error e => .error e
      | .ok (_, items) => checked items

end Program

end Marginalia
