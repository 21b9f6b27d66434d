import Marginalia.Program.Syntax
import Marginalia.Program.Token

/-!
# Reading expressions

Products bind closer than sums, a sign closer than a product, and an item in brackets closest.
Operators of one kind group to the left. Literals that follow each other are one literal.

## Main definitions

* `Program.readExpr`: the expression that tokens start with
* `Program.expr?`: the expression that tokens are
-/

namespace Marginalia

namespace Program

/-- The operators of sums. -/
def additive? (c : Char) : Option Operator :=
  if c = '+' then some .plus else if c = '-' then some .minus else none

/-- The texts that tokens start with, put together, and the tokens after them. -/
def readTexts : List Token → Text × List Token
  | .text s :: rest =>
    let (t, rest) := readTexts rest
    (s ++ t, rest)
  | rest => ([], rest)

/-- The byte strings that tokens start with, put together, and the tokens after them. -/
def readByteStrings : List Token → Bytes × List Token
  | .bytes s :: rest =>
    let (t, rest) := readByteStrings rest
    (s ++ t, rest)
  | rest => ([], rest)

/-- The constant that a keyword is. -/
def constant? (s : Text) : Option Value :=
  if s = "None".toList then some .none
  else if s = "True".toList then some (.bool true)
  else if s = "False".toList then some (.bool false)
  else none

/-- The integer that tokens start with. -/
def integer? : List Token → Option (Int × List Token)
  | .numeral k :: rest => some (k, rest)
  | .mark '-' :: .numeral k :: rest => some (-(k : Int), rest)
  | _ => none

/-- The place between brackets whose opening one has been read. -/
def place? (ts : List Token) : Option (Int × List Token) :=
  match integer? ts with
  | some (i, .mark ']' :: rest) => some (i, rest)
  | _ => none

mutual

/-- The expression that tokens start with; at most `fuel` steps are taken. -/
def readExpr : Nat → List Token → Option (Expr × List Token)
  | 0, _ => none
  | fuel + 1, ts =>
    match readProduct fuel ts with
    | some (left, rest) => readSum fuel left rest
    | none => none

/-- A sum that starts with an expression. -/
def readSum : Nat → Expr → List Token → Option (Expr × List Token)
  | 0, _, _ => none
  | fuel + 1, left, .mark c :: rest =>
    match additive? c with
    | none => some (left, .mark c :: rest)
    | some op =>
      match readProduct fuel rest with
      | some (right, rest) => readSum fuel (.binary op left right) rest
      | none => none
  | _ + 1, left, ts => some (left, ts)

/-- The product that tokens start with. -/
def readProduct : Nat → List Token → Option (Expr × List Token)
  | 0, _ => none
  | fuel + 1, ts =>
    match readFactor fuel ts with
    | some (left, rest) => readFactors fuel left rest
    | none => none

/-- A product that starts with an expression. -/
def readFactors : Nat → Expr → List Token → Option (Expr × List Token)
  | 0, _, _ => none
  | fuel + 1, left, .mark '*' :: rest =>
    match readFactor fuel rest with
    | some (right, rest) => readFactors fuel (.binary .times left right) rest
    | none => none
  | _ + 1, left, ts => some (left, ts)

/-- The factor that tokens start with. -/
def readFactor : Nat → List Token → Option (Expr × List Token)
  | 0, _ => none
  | fuel + 1, .mark '-' :: rest =>
    (readFactor fuel rest).map fun (e, rest) => (.signed true e, rest)
  | fuel + 1, .mark '+' :: rest =>
    (readFactor fuel rest).map fun (e, rest) => (.signed false e, rest)
  | fuel + 1, ts =>
    match readAtom fuel ts with
    | some (e, rest) => readPlaces fuel e rest
    | none => none

/-- An expression and the places of items after it. -/
def readPlaces : Nat → Expr → List Token → Option (Expr × List Token)
  | 0, _, _ => none
  | fuel + 1, e, .mark '[' :: rest =>
    match e.hasPlaces, place? rest with
    | true, some (i, rest) => readPlaces fuel (.item e i) rest
    | _, _ => none
  | _ + 1, e, ts => some (e, ts)

/-- The operand that tokens start with. -/
def readAtom : Nat → List Token → Option (Expr × List Token)
  | 0, _ => none
  | fuel + 1, ts =>
    match ts with
    | .name n :: .mark '(' :: rest =>
      match rest with
      | .mark ')' :: rest => if n = setWord then some (.set [], rest) else none
      | _ => none
    | .name n :: rest => some (.name n, rest)
    | .keyword s :: rest => (constant? s).map fun v => (.literal v, rest)
    | .numeral k :: rest => some (.literal (.int k), rest)
    | .decimal x :: rest => some (.literal (.float x), rest)
    | .text s :: rest =>
      let (t, rest) := readTexts rest
      some (.literal (.text (s ++ t)), rest)
    | .bytes s :: rest =>
      let (t, rest) := readByteStrings rest
      some (.literal (.bytes (s ++ t)), rest)
    | .mark '[' :: rest =>
      (readItems ']' fuel rest).map fun (items, _, rest) => (.list items, rest)
    | .mark '(' :: rest =>
      match readItems ')' fuel rest with
      | some ([e], false, rest) => some (e, rest)
      | some (items, _, rest) => some (.tuple items, rest)
      | none => none
    | .mark '\x7b' :: .mark '\x7d' :: rest => some (.dict [], rest)
    | .mark '\x7b' :: rest =>
      match readExpr fuel rest with
      | some (key, .mark ':' :: rest) =>
        (readValue fuel key rest).map fun (entries, rest) => (.dict entries, rest)
      | some (e, .mark ',' :: rest) =>
        (readItems '\x7d' fuel rest).map fun (items, _, rest) => (.set (e :: items), rest)
      | some (e, .mark '\x7d' :: rest) => some (.set [e], rest)
      | _ => none
    | _ => none

/-- The expressions up to a closing bracket, and whether a comma stands behind one of them. -/
def readItems (close : Char) : Nat → List Token → Option (List Expr × Bool × List Token)
  | 0, _ => none
  | fuel + 1, ts =>
    if ts.head? = some (.mark close) then some ([], false, ts.tail)
    else
      match readExpr fuel ts with
      | some (e, .mark c :: rest) =>
        if c = ',' then
          (readItems close fuel rest).map fun (items, _, rest) => (e :: items, true, rest)
        else if c = close then some ([e], false, rest)
        else none
      | _ => none

/-- The entries of a dictionary up to the closing brace, from the value of the first one on. -/
def readValue : Nat → Expr → List Token → Option (List (Expr × Expr) × List Token)
  | 0, _, _ => none
  | fuel + 1, key, ts =>
    match readExpr fuel ts with
    | some (e, .mark '\x7d' :: rest) => some ([(key, e)], rest)
    | some (e, .mark ',' :: .mark '\x7d' :: rest) => some ([(key, e)], rest)
    | some (e, .mark ',' :: rest) =>
      match readExpr fuel rest with
      | some (next, .mark ':' :: rest) =>
        (readValue fuel next rest).map fun (entries, rest) => ((key, e) :: entries, rest)
      | _ => none
    | _ => none

end

/-- Steps enough for some tokens. -/
def enough (ts : List Token) : Nat := 8 * ts.length + 8

/-- The expression that tokens are. -/
def expr? (ts : List Token) : Option Expr :=
  match readExpr (enough ts) ts with
  | some (e, []) => some e
  | _ => none

/-- What gives a value: an expression or a call. -/
def rightSide? (ts : List Token) : Option RightSide :=
  match expr? ts, ts with
  | some e, _ => some (.expr e)
  | none, .name n :: .mark '(' :: rest =>
    match readItems ')' (enough rest) rest with
    | some (arguments, _, []) => some (.call n arguments)
    | _ => none
  | none, _ => none

end Program

end Marginalia
