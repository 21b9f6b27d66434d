import Marginalia.Number.Arithmetic
import Marginalia.Program.Fault
import Marginalia.Program.Syntax
import Marginalia.Value.Store

/-!
# Operations on values

Numbers are added, subtracted and multiplied, an integer becoming a float where the other operand is
one. Sequences are put together with sequences of their class and repeated by integers, and sets
lose the members of other sets.

## Main definitions

* `Store.item`: the item of a value at a place
* `Program.operate`: the value of an operation, and the store with the container it made
* `Program.withSign`: a value with a sign in front
* `Value.unhashable?`: what keeps a value from being a key

## Main results

* `Program.operate_int`: operations on integers are those of arithmetic
* `Program.operate_text`: texts are put together
-/

namespace Marginalia

/-- The integer that a value is; a truth value is zero or one. -/
def Value.integer? : Value → Option Int
  | .int i => some i
  | .bool b => some (if b then 1 else 0)
  | _ => Option.none

/-! ## Items -/

/-- The item of a list at a place; negative places count from the end. -/
def itemAt? {α : Type} (items : List α) (place : Int) : Option α :=
  if 0 ≤ place then items[place.toNat]?
  else if (-place).toNat ≤ items.length then items[items.length - (-place).toNat]?
  else none

/-- Whether an integer can tell a place in a sequence. -/
def isIndex (i : Int) : Bool := -(Nat.pow 2 63 : Int) ≤ i && i < (Nat.pow 2 63 : Int)

/-- The item of a sequence at a place, as a value. -/
def pick {α : Type} (sequence : Text) (f : α → Value) (items : List α) (place : Int) :
    Except ProgramFault Value :=
  if !isIndex place then .error .tooFar
  else
    match itemAt? items place with
    | some a => .ok (f a)
    | none => .error (.outOfRange sequence)

/-- The value under an integer key. -/
def Value.underKey? (place : Int) : Entries → Option Value
  | [] => Option.none
  | (k, v) :: rest => if equals k (.int place) then some v else underKey? place rest

/-- The item of a value at a place. -/
def Store.item (σ : Store) (v : Value) (place : Int) : Except ProgramFault Value :=
  match σ.view v with
  | .list items => pick "list".toList id items place
  | .tuple items => pick "tuple".toList id items place
  | .text s => pick "string".toList (fun c => .text [c]) s place
  | .bytes bs => pick [] (fun b => .int b.toNat) bs place
  | .dict entries =>
    match Value.underKey? place entries with
    | some w => .ok w
    | none => .error (.noKey place)
  | w => .error w.itemFault

/-! ## Keys -/

namespace Value

mutual

/-- The class of the container that keeps an expanded value from being a key. -/
def unhashable? : Value → Option Text
  | list _ => some Kind.list.name
  | set _ => some Kind.set.name
  | dict _ => some Kind.dict.name
  | tuple items => unhashableIn? items
  | _ => Option.none

/-- The class of the first container that keeps one of the values from being a key. -/
def unhashableIn? : List Value → Option Text
  | [] => Option.none
  | v :: vs =>
    match unhashable? v with
    | some className => some className
    | Option.none => unhashableIn? vs

end

end Value

/-- The values, if all of them can be keys. -/
def Store.keys (σ : Store) (vs : List Value) : Except ProgramFault (List Value) :=
  match vs.findSome? fun v => (σ.expand v).unhashable? with
  | some className => .error (.unhashable className)
  | none => .ok vs

/-! ## Operators -/

namespace Program

/-- The sign of an operator. -/
def Operator.sign : Operator → Text
  | plus => ['+']
  | minus => ['-']
  | times => ['*']

/-- The integer of an operation. -/
def Operator.apply : Operator → Int → Int → Int
  | plus, i, j => i + j
  | minus, i, j => i - j
  | times, i, j => i * j

/-- The float of an operation. -/
def Operator.applyFloat : Operator → Binary64 → Binary64 → Binary64
  | plus, x, y => x.add y
  | minus, x, y => x.sub y
  | times, x, y => x.mul y

/-- The float that a number is. -/
def float? : Number → Option Binary64
  | .int i => Binary64.ofInt? i
  | .float x => some x

/-- The value of an operation on numbers. -/
def combine (op : Operator) : Number → Number → Except ProgramFault Value
  | .int i, .int j => .ok (.int (op.apply i j))
  | a, b =>
    match float? a, float? b with
    | some x, some y => .ok (.float (op.applyFloat x y))
    | _, _ => .error .noFloat

/-- A container kept in the store, and a reference to it. -/
def keep (σ : Store) (kind : Kind) (v : Value) : Store × Value :=
  let (σ, address) := σ.alloc v
  (σ, .shared kind address)

/-- What an operation gives: the store and a value, or a fault. -/
abbrev Outcome := Except ProgramFault (Store × Value)

/-- Sequences put together; an empty tuple leaves the other one as it is. -/
def concatenate (σ : Store) (v w : Value) : Outcome :=
  match σ.view v, σ.view w with
  | .text s, .text t => .ok (σ, .text (s ++ t))
  | .bytes s, .bytes t => .ok (σ, .bytes (s ++ t))
  | .list xs, .list ys => .ok (keep σ .list (.list (xs ++ ys)))
  | .tuple [], .tuple _ => .ok (σ, w)
  | .tuple _, .tuple [] => .ok (σ, v)
  | .tuple xs, .tuple ys => .ok (keep σ .tuple (.tuple (xs ++ ys)))
  | .bytes _, _ => .error (.byteConcatenation w.typeName)
  | .text _, _ => .error (.concatenation v.typeName w.typeName)
  | .list _, _ => .error (.concatenation v.typeName w.typeName)
  | .tuple _, _ => .error (.concatenation v.typeName w.typeName)
  | _, _ => .error (.operands Operator.plus.sign v.typeName w.typeName)

/-- The set without the members of another one. -/
def subtract (σ : Store) (v w : Value) : Outcome :=
  match σ.view v, σ.view w with
  | .set xs, .set ys =>
    let left := xs.filter fun x => !ys.any fun y => Value.equals (σ.expand x) (σ.expand y)
    .ok (keep σ .set (.set left))
  | _, _ => .error (.operands Operator.minus.sign v.typeName w.typeName)

/-- The length beyond which no sequence is made. -/
def maxLength : Nat := Nat.pow 2 36

/-- The members some times over, if they are not too many. -/
def repeated {α : Type} (items : List α) (count : Nat) : Except ProgramFault (List α) :=
  if items.isEmpty then .ok []
  else if maxLength < items.length * count then .error .tooLong
  else .ok (List.replicate count items).flatten

/-- A sequence some times over; nothing where the value is no sequence. A tuple that is empty or
taken once stays as it is. -/
def times? (σ : Store) (v : Value) (count : Nat) : Option Outcome :=
  match σ.view v with
  | .text s => some ((repeated s count).map fun s => (σ, .text s))
  | .bytes bs => some ((repeated bs count).map fun bs => (σ, .bytes bs))
  | .list xs => some ((repeated xs count).map fun xs => keep σ .list (.list xs))
  | .tuple xs =>
    if xs.isEmpty ∨ count = 1 then some (.ok (σ, v))
    else some ((repeated xs count).map fun xs => keep σ .tuple (.tuple xs))
  | _ => none

/-- A sequence repeated by what has to be an integer; nothing where the value is no sequence.
Negative numbers count as zero. -/
def repeat? (σ : Store) (v w : Value) : Option Outcome :=
  match times? σ v 1, w.integer? with
  | none, _ => none
  | some _, none => some (.error (.repetition w.typeName))
  | some _, some i => if isIndex i then times? σ v i.toNat else some (.error .tooOften)

/-- A sequence repeated by an integer, on either side. -/
def multiply (σ : Store) (v w : Value) : Outcome :=
  match repeat? σ v w, repeat? σ w v with
  | some outcome, _ => outcome
  | none, some outcome => outcome
  | none, none => .error (.operands Operator.times.sign v.typeName w.typeName)

/-- The value of an operation, and the store with the container it made. -/
def operate (op : Operator) (σ : Store) (v w : Value) : Outcome :=
  match v.number?, w.number? with
  | some a, some b => (combine op a b).map (σ, ·)
  | _, _ =>
    match op with
    | .plus => concatenate σ v w
    | .minus => subtract σ v w
    | .times => multiply σ v w

/-- **Operations on integers are those of arithmetic.** -/
theorem operate_int (op : Operator) (σ : Store) (i j : Int) :
    operate op σ (.int i) (.int j) = .ok (σ, .int (op.apply i j)) := rfl

/-- **Texts are put together.** -/
theorem operate_text (σ : Store) (s t : Text) :
    operate .plus σ (.text s) (.text t) = .ok (σ, .text (s ++ t)) := rfl

/-- A value with a sign in front. -/
def withSign (minus : Bool) (v : Value) : Except ProgramFault Value :=
  match v.number? with
  | some (.int i) => .ok (.int (if minus then -i else i))
  | some (.float x) => .ok (.float (if minus then x.negate else x))
  | none => .error (.operand [if minus then '-' else '+'] v.typeName)

end Program

end Marginalia
