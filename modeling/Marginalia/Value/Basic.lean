import Marginalia.Number.Binary64
import Marginalia.Text.Utf8

/-!
# Values

The values that debug output shows. A container that stands in one place only is written in place;
one that stands in several places, or inside itself, is kept in a store under a number and the
value refers to it. An object of an unknown class is known by its identity and by what becomes of
an attempt to describe it.

## Main definitions

* `Value`: values
* `Value.typeName`: the name of a value's class
* `Value.equals`: equality of keys, where integers, Booleans and floats compare by number
* `Value.insert`, `Value.lookup?`: dictionaries in insertion order
* `Value.setOf`: the set of some elements, in increasing order of what they refer to

## Main results

* `Value.lookup?_insert_self`: the value just inserted is found
-/

namespace Marginalia

/-- The classes of containers. -/
inductive Kind where
  | list
  | tuple
  | set
  | dict
  deriving DecidableEq, Repr

/-- What becomes of an attempt to describe an object. -/
inductive Description where
  /-- The object describes itself by this text. -/
  | shown (text : Text)
  /-- The attempt fails with this message. -/
  | fails (message : Text)
  deriving DecidableEq, Repr

/-- What tells an object from all others. -/
inductive Identity where
  /-- An object that was made, by its number. -/
  | made (number : Nat)
  /-- An object that is always there, by its name. -/
  | common (name : Text)
  deriving DecidableEq, Repr

/-- An object that is no value of the kinds that debug output knows. -/
structure Foreign where
  /-- Its identity. -/
  identity : Identity
  /-- The name of its class. -/
  className : Text
  /-- What describing it gives. -/
  description : Description
  /-- The name under which the program can find it, if it has one. -/
  fullName? : Option Text
  deriving DecidableEq, Repr

/-- Values; `shared` refers to a container of a store. -/
inductive Value where
  | none
  | bool (b : Bool)
  | int (i : Int)
  | float (x : Binary64)
  | text (s : Text)
  | bytes (bs : Bytes)
  | foreign (object : Foreign)
  | list (items : List Value)
  | tuple (items : List Value)
  | set (items : List Value)
  | dict (entries : List (Value × Value))
  | shared (kind : Kind) (address : Nat)
  deriving Repr, Inhabited

/-- The entries of a dictionary, in order. -/
abbrev Entries := List (Value × Value)

namespace Kind

/-- The name of the class. -/
def name : Kind → Text
  | .list => "list".toList
  | .tuple => "tuple".toList
  | .set => "set".toList
  | .dict => "dict".toList

end Kind

/-- Integers and floats, as they compare with each other. -/
inductive Number where
  | int (i : Int)
  | float (x : Binary64)
  deriving DecidableEq, Repr

namespace Number

/-- Whether two numbers are equal. -/
def equals : Number → Number → Bool
  | .int i, .int j => i == j
  | .int i, .float x => x.equalsInt i
  | .float x, .int i => x.equalsInt i
  | .float x, .float y => x.equals y

/-- A finite number as a fraction, or the sign of an infinity. -/
inductive Place where
  | below
  | at (num : Int) (den : Nat)
  | above
  | nowhere

/-- Where the number stands on the line. -/
def place : Number → Place
  | .int i => .at i 1
  | .float x =>
    match x, x.fraction? with
    | _, some (num, den) => .at num den
    | .infinite true, _ => .below
    | .infinite false, _ => .above
    | _, _ => .nowhere

/-- Whether the first number is less than the second. -/
def less (a b : Number) : Bool :=
  match a.place, b.place with
  | .at n d, .at m e => n * e < m * d
  | .below, .at _ _ => true
  | .below, .above => true
  | .at _ _, .above => true
  | _, _ => false

end Number

namespace Value

/-- The name of the value's class. -/
def typeName : Value → Text
  | none => "NoneType".toList
  | bool _ => "bool".toList
  | int _ => "int".toList
  | float _ => "float".toList
  | text _ => "str".toList
  | bytes _ => "bytes".toList
  | foreign o => o.className
  | list _ => Kind.list.name
  | tuple _ => Kind.tuple.name
  | set _ => Kind.set.name
  | dict _ => Kind.dict.name
  | shared kind _ => kind.name

/-- The number that a value is; a Boolean is zero or one. -/
def number? : Value → Option Number
  | bool b => some (.int (if b then 1 else 0))
  | int i => some (.int i)
  | float x => some (.float x)
  | _ => Option.none

mutual

/-- Whether two values are equal as keys. Containers that cannot be keys equal nothing. -/
def equals : Value → Value → Bool
  | none, none => true
  | text s, text t => decide (s = t)
  | bytes s, bytes t => decide (s = t)
  | foreign o, foreign p => decide (o.identity = p.identity)
  | tuple xs, tuple ys => equalsAll xs ys
  | v, w =>
    match v.number?, w.number? with
    | some a, some b => a.equals b
    | _, _ => false

/-- Whether two lists of values are equal member by member. -/
def equalsAll : List Value → List Value → Bool
  | [], [] => true
  | v :: vs, w :: ws => equals v w && equalsAll vs ws
  | _, _ => false

end

/-- The entries with `key` bound to `value`: an equal key keeps its place and its form. -/
def insert (key value : Value) : Entries → Entries
  | [] => [(key, value)]
  | (k, v) :: rest => if equals k key then (k, value) :: rest else (k, v) :: insert key value rest

/-- The dictionary of pairs; of two equal keys the later value and the earlier place win. -/
def entriesOf (pairs : Entries) : Entries :=
  pairs.foldl (fun entries pair => insert pair.1 pair.2 entries) []

/-- The value bound to a text. -/
def lookup? (name : Text) : Entries → Option Value
  | [] => Option.none
  | (text s, v) :: rest => if s = name then some v else lookup? name rest
  | _ :: rest => lookup? name rest

theorem equals_text (s t : Text) : equals (text s) (text t) = decide (s = t) := by
  simp [equals]

/-- Only a text equals a text. -/
theorem eq_text_of_equals {v : Value} {t : Text} (h : equals v (text t) = true) : v = text t := by
  cases v <;> simp_all [equals, number?]

/-- **The value just inserted is found.** -/
theorem lookup?_insert_self (name : Text) (v : Value) (entries : Entries) :
    lookup? name (insert (text name) v entries) = some v := by
  induction entries with
  | nil => simp [insert, lookup?]
  | cons e rest ih =>
    obtain ⟨k, w⟩ := e
    by_cases h : equals k (text name) = true
    · obtain rfl := eq_text_of_equals h
      simp [insert, equals_text, lookup?]
    · cases k <;> simp_all [insert, lookup?, equals_text]

/-- Whether the first list comes before the second in the order of their members. -/
def lexLess {α : Type} (less : α → α → Bool) : List α → List α → Bool
  | _, [] => false
  | [], _ :: _ => true
  | a :: as, b :: bs => less a b || (!less b a && lexLess less as bs)

/-- Whether the first text comes before the second by the code points of their characters. -/
def textLess (s t : Text) : Bool := lexLess (fun c d => c.toNat < d.toNat) s t

mutual

/-- Whether the first value comes before the second where sets are put in order. Values that do not
compare are ordered by the names of their classes. -/
def less : Value → Value → Bool
  | text s, text t => textLess s t
  | bytes s, bytes t => lexLess (fun c d => c.toNat < d.toNat) s t
  | tuple xs, tuple ys => lessAll xs ys
  | v, w =>
    match v.number?, w.number? with
    | some a, some b => a.less b
    | _, _ => textLess v.typeName w.typeName

/-- The order of tuples: by the first place where they differ. -/
def lessAll : List Value → List Value → Bool
  | _, [] => false
  | [], _ :: _ => true
  | v :: vs, w :: ws => if equals v w then lessAll vs ws else less v w

end

/-- An element put into its place among ordered elements, where `view` shows what they refer to. -/
def place (view : Value → Value) (v : Value) : List Value → List Value
  | [] => [v]
  | w :: ws => if less (view v) (view w) then v :: w :: ws else w :: place view v ws

/-- The set of some elements: the first of equal ones, in increasing order. -/
def setOf (view : Value → Value) (items : List Value) : Value :=
  set (items.foldl (fun placed v =>
    if placed.any fun w => equals (view v) (view w) then placed else place view v placed) [])

end Value

end Marginalia
