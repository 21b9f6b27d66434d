import Marginalia.Render.Fault
import Marginalia.Text.Printable
import Marginalia.Text.Quoted
import Marginalia.Number.Shortest
import Marginalia.Value.Store

/-!
# Spelled values

A shape is a value whose parts are already spelled, so that only the layout is left to choose: an
atom stands on one line as it is, a quoted text may be cut into adjacent literals, and brackets
hold shapes. Everything that can go wrong with a value goes wrong while it is spelled.

## Main definitions

* `Shape`: spelled values
* `Shape.oneLine`: a shape on one line
* `Value.shape`: the shape of an expanded value
* `Value.literal`: an expanded value on one line

## Main results

* `Value.shape_ok_iff`: a value has a shape exactly when every integer in it is short enough and
  every object in it can be described
-/

namespace Marginalia

/-- A value whose parts are spelled. -/
inductive Shape where
  /-- A text that stands as it is. -/
  | atom (s : Text)
  /-- A text to be quoted. -/
  | text (s : Text)
  /-- Bytes to be quoted. -/
  | bytes (bs : Bytes)
  /-- Shapes between brackets. -/
  | group (left right : Text) (items : List Shape)
  /-- Shapes under spelled keys. -/
  | table (entries : List (Text × Shape))
  deriving Repr

/-- The literal of a text. -/
def quote (s : Text) : Text := Quoted.write isPrintable s

/-- The decimal text of an integer, if it is short enough. -/
def spellInt (i : Int) : Except RenderFault Text :=
  if Digits.tooLong i then .error .tooManyDigits else .ok (Digits.decimalInt i)

/-- The word for a truth value. -/
def spellBool (b : Bool) : Text := if b then "True".toList else "False".toList

/-- The description of an object. -/
def Foreign.spell (o : Foreign) : Except RenderFault Text :=
  match o.description with
  | .shown s => .ok s
  | .fails message => .error (.description message)

/-- A colon and a space. -/
def colonSpace : Text := [':', ' ']

/-- A comma and a space. -/
def commaSpace : Text := [',', ' ']

/-- An opening brace. -/
def openBrace : Text := ['\x7b']

/-- A closing brace. -/
def closeBrace : Text := ['\x7d']

namespace Shape

mutual

/-- The shape on one line. -/
def oneLine : Shape → Text
  | atom s => s
  | text s => quote s
  | bytes bs => Quoted.writeBytes bs
  | group left right items => left ++ Text.joined commaSpace (oneLines items) ++ right
  | table entries => openBrace ++ Text.joined commaSpace (rowLines entries) ++ closeBrace

/-- The shapes, each on one line. -/
def oneLines : List Shape → List Text
  | [] => []
  | x :: rest => oneLine x :: oneLines rest

/-- The entries, each on one line. -/
def rowLines : List (Text × Shape) → List Text
  | [] => []
  | (key, x) :: rest => (key ++ colonSpace ++ oneLine x) :: rowLines rest

end

end Shape

/-- The brackets of a tuple: a single member is followed by a comma. -/
def tupleClose (n : Nat) : Text := if n = 1 then [',', ')'] else [')']

namespace Value

mutual

/-- The shape of an expanded value; `mark` spells a reference to an enclosing container. -/
def shape (mark : Kind → Nat → Text) : Value → Except RenderFault Shape
  | none => .ok (.atom "None".toList)
  | bool b => .ok (.atom (spellBool b))
  | int i => (spellInt i).map .atom
  | float x => .ok (.atom x.text)
  | text s => .ok (.text s)
  | bytes bs => .ok (.bytes bs)
  | foreign o => o.spell.map .atom
  | list items => (shapes mark items).map (.group ['['] [']'])
  | tuple items => (shapes mark items).map (.group ['('] (tupleClose items.length))
  | set items =>
    if items.isEmpty then .ok (.atom "set()".toList)
    else (shapes mark items).map (.group openBrace closeBrace)
  | dict entries => (rows mark entries).map .table
  | shared kind address => .ok (.atom (mark kind address))

/-- The shapes of values, in order. -/
def shapes (mark : Kind → Nat → Text) : List Value → Except RenderFault (List Shape)
  | [] => .ok []
  | v :: vs =>
    match shape mark v with
    | .error e => .error e
    | .ok x => (shapes mark vs).map (x :: ·)

/-- The shapes of entries, each key before its value. -/
def rows (mark : Kind → Nat → Text) : Entries → Except RenderFault (List (Text × Shape))
  | [] => .ok []
  | (k, v) :: rest =>
    match shape mark k with
    | .error e => .error e
    | .ok key =>
      match shape mark v with
      | .error e => .error e
      | .ok x => (rows mark rest).map ((key.oneLine, x) :: ·)

end

/-- The dots that stand for an enclosing container on one line. -/
def ellipsis : Kind → Nat → Text
  | .list, _ => "[...]".toList
  | .tuple, _ => "(...)".toList
  | .set, _ => "set(...)".toList
  | .dict, _ => Text.enclosed openBrace closeBrace "...".toList

/-- An expanded value on one line. -/
def literal (v : Value) : Except RenderFault Text := (shape ellipsis v).map Shape.oneLine

mutual

/-- Whether every integer in the value is short enough and every object can be described. -/
def speakable : Value → Bool
  | int i => !Digits.tooLong i
  | foreign o => match o.description with
    | .shown _ => true
    | .fails _ => false
  | list items => speakableAll items
  | tuple items => speakableAll items
  | set items => speakableAll items
  | dict entries => speakableEntries entries
  | _ => true

/-- Whether all the values are speakable. -/
def speakableAll : List Value → Bool
  | [] => true
  | v :: vs => speakable v && speakableAll vs

/-- Whether all keys and values are speakable. -/
def speakableEntries : Entries → Bool
  | [] => true
  | (k, v) :: rest => speakable k && speakable v && speakableEntries rest

end

/-- Whether a step succeeded. -/
def succeeds {ε α : Type} : Except ε α → Bool
  | .ok _ => true
  | .error _ => false

@[simp] theorem succeeds_ok {ε α : Type} (a : α) : succeeds (.ok a : Except ε α) = true := rfl

@[simp] theorem succeeds_error {ε α : Type} (e : ε) :
    succeeds (.error e : Except ε α) = false := rfl

@[simp] theorem succeeds_map {ε α β : Type} (f : α → β) (x : Except ε α) :
    succeeds (x.map f) = succeeds x := by cases x <;> rfl

theorem map_eq_ok_iff {ε α β : Type} {f : α → β} {x : Except ε α} {b : β} :
    x.map f = .ok b ↔ ∃ a, x = .ok a ∧ f a = b := by cases x <;> simp [Except.map]

mutual

/-- **A value has a shape exactly when every integer in it is short enough and every object in it
can be described.** -/
theorem shape_ok_iff (mark : Kind → Nat → Text) :
    ∀ v : Value, succeeds (shape mark v) = speakable v
  | none => rfl
  | bool _ => rfl
  | int i => by by_cases h : Digits.tooLong i = true <;> simp [shape, speakable, spellInt, h]
  | float _ => rfl
  | text _ => rfl
  | bytes _ => rfl
  | foreign o => by
    rcases o with ⟨id, c, d, n⟩
    cases d <;> simp [shape, speakable, Foreign.spell]
  | list items => by simp [shape, speakable, shapes_ok_iff mark items]
  | tuple items => by simp [shape, speakable, shapes_ok_iff mark items]
  | set items => by
    cases items with
    | nil => simp [shape, speakable, speakableAll]
    | cons v vs => simpa [shape, speakable] using shapes_ok_iff mark (v :: vs)
  | dict entries => by simp [shape, speakable, rows_ok_iff mark entries]
  | shared _ _ => rfl

theorem shapes_ok_iff (mark : Kind → Nat → Text) :
    ∀ vs : List Value, succeeds (shapes mark vs) = speakableAll vs
  | [] => rfl
  | v :: vs => by
    have h := shape_ok_iff mark v
    have hs := shapes_ok_iff mark vs
    simp only [shapes, speakableAll]
    cases hv : shape mark v <;> simp_all

theorem rows_ok_iff (mark : Kind → Nat → Text) :
    ∀ es : Entries, succeeds (rows mark es) = speakableEntries es
  | [] => rfl
  | (k, v) :: rest => by
    have hk := shape_ok_iff mark k
    have hv := shape_ok_iff mark v
    have hs := rows_ok_iff mark rest
    simp only [rows, speakableEntries]
    cases hk' : shape mark k <;> cases hv' : shape mark v <;> simp_all

end

end Value

end Marginalia
