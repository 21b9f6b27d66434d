import Marginalia.Value.Basic

/-!
# Stores of shared containers

A store holds the containers that values refer to. Expanding a value puts every container in the
places that refer to it; a container inside itself stays a reference, so that an expanded value is
a finite tree whose references all lead back to an enclosing container.

## Main definitions

* `Store`: the containers by number
* `Store.view`: a value with a reference at its top replaced by the container
* `Value.graft`: a value with every reference replaced
* `Store.expand`: the tree of a value
* `Value.plain`: values without references and foreign objects

## Main results

* `Store.expand_plain`: a value without references is its own tree
-/

namespace Marginalia

/-- Containers by number. -/
structure Store where
  /-- The container of each number. -/
  cells : List Value
  deriving Inhabited

namespace Value

mutual

/-- The value with `f kind address` in the place of every reference. -/
def graft (f : Kind → Nat → Value) : Value → Value
  | list items => list (graftAll f items)
  | tuple items => tuple (graftAll f items)
  | set items => set (graftAll f items)
  | dict entries => dict (graftEntries f entries)
  | shared kind address => f kind address
  | none => none
  | bool b => bool b
  | int i => int i
  | float x => float x
  | text s => text s
  | bytes bs => bytes bs
  | foreign o => foreign o

/-- The values with every reference replaced. -/
def graftAll (f : Kind → Nat → Value) : List Value → List Value
  | [] => []
  | v :: vs => graft f v :: graftAll f vs

/-- The entries with every reference replaced. -/
def graftEntries (f : Kind → Nat → Value) : Entries → Entries
  | [] => []
  | (k, v) :: rest => (graft f k, graft f v) :: graftEntries f rest

end

mutual

/-- Whether the value holds neither references nor foreign objects. -/
def plain : Value → Bool
  | list items => plainAll items
  | tuple items => plainAll items
  | set items => plainAll items
  | dict entries => plainEntries entries
  | shared _ _ => false
  | foreign _ => false
  | _ => true

/-- Whether all the values are plain. -/
def plainAll : List Value → Bool
  | [] => true
  | v :: vs => plain v && plainAll vs

/-- Whether all the keys and values are plain. -/
def plainEntries : Entries → Bool
  | [] => true
  | (k, v) :: rest => plain k && plain v && plainEntries rest

end

mutual

/-- Without references there is nothing to replace. -/
theorem graft_plain (f : Kind → Nat → Value) : ∀ v : Value, plain v = true → graft f v = v
  | list items, h => by simpa [graft] using graftAll_plain f items (by simpa [plain] using h)
  | tuple items, h => by simpa [graft] using graftAll_plain f items (by simpa [plain] using h)
  | set items, h => by simpa [graft] using graftAll_plain f items (by simpa [plain] using h)
  | dict entries, h => by
    simpa [graft] using graftEntries_plain f entries (by simpa [plain] using h)
  | shared _ _, h => by simp [plain] at h
  | foreign _, h => by simp [plain] at h
  | none, _ => rfl
  | bool _, _ => rfl
  | int _, _ => rfl
  | float _, _ => rfl
  | text _, _ => rfl
  | bytes _, _ => rfl

theorem graftAll_plain (f : Kind → Nat → Value) :
    ∀ vs : List Value, plainAll vs = true → graftAll f vs = vs
  | [], _ => rfl
  | v :: vs, h => by
    simp only [plainAll, Bool.and_eq_true] at h
    rw [graftAll, graft_plain f v h.1, graftAll_plain f vs h.2]

theorem graftEntries_plain (f : Kind → Nat → Value) :
    ∀ es : Entries, plainEntries es = true → graftEntries f es = es
  | [], _ => rfl
  | (k, v) :: rest, h => by
    simp only [plainEntries, Bool.and_eq_true] at h
    rw [graftEntries, graft_plain f k h.1.1, graft_plain f v h.1.2, graftEntries_plain f rest h.2]

end

end Value

namespace Store

/-- The store without containers. -/
def empty : Store := ⟨[]⟩

/-- The container of a number. -/
def get? (σ : Store) (address : Nat) : Option Value := σ.cells[address]?

/-- The store with one more container, and the number of that container. -/
def alloc (σ : Store) (v : Value) : Store × Nat := (⟨σ.cells ++ [v]⟩, σ.cells.length)

/-- The store with another container under a number in use. -/
def put (σ : Store) (address : Nat) (v : Value) : Store := ⟨σ.cells.set address v⟩

/-- The container a reference leads to, and every other value itself. -/
def view (σ : Store) : Value → Value
  | .shared kind address => (σ.get? address).getD (.shared kind address)
  | v => v

/-- The tree below a reference that stands inside the containers `path`; at most `fuel` containers
are entered. -/
def unfold (σ : Store) : Nat → List Nat → Kind → Nat → Value
  | 0, _, kind, address => .shared kind address
  | fuel + 1, path, kind, address =>
    if path.contains address then .shared kind address
    else
      match σ.get? address with
      | some v => v.graft (σ.unfold fuel (address :: path))
      | none => .shared kind address

/-- The tree of a value: a path without repetition enters each container at most once. -/
def expand (σ : Store) (v : Value) : Value := v.graft (σ.unfold σ.cells.length [])

/-- The entries with their values expanded. -/
def expandEntries (σ : Store) (entries : Entries) : Entries :=
  Value.graftEntries (σ.unfold σ.cells.length []) entries

/-- **A value without references is its own tree.** -/
theorem expand_plain (σ : Store) {v : Value} (h : v.plain = true) : σ.expand v = v :=
  Value.graft_plain _ v h

/-- A value without references is what it is seen as. -/
theorem view_plain (σ : Store) {v : Value} (h : v.plain = true) : σ.view v = v := by
  cases v with
  | shared kind address => cases h
  | _ => rfl

/-- The entries with `key` bound to `value`, keys being compared by what they refer to. -/
def insert (σ : Store) (key value : Value) : Entries → Entries
  | [] => [(key, value)]
  | (k, v) :: rest =>
    if Value.equals (σ.expand k) (σ.expand key) then (k, value) :: rest
    else (k, v) :: σ.insert key value rest

/-- The dictionary of pairs; of two equal keys the later value and the earlier place win. -/
def entriesOf (σ : Store) (pairs : Entries) : Entries :=
  pairs.foldl (fun entries pair => σ.insert pair.1 pair.2 entries) []

/-- The set of some elements, each put in its place by what it refers to. -/
def setOf (σ : Store) (items : List Value) : Value := Value.setOf σ.expand items

/-- Whether the value counts as true: not none, not zero and not empty. -/
def truthy (σ : Store) (v : Value) : Bool :=
  match σ.view v with
  | .none => false
  | .bool b => b
  | .int i => i != 0
  | .float x => !x.isZero
  | .text s => !s.isEmpty
  | .bytes bs => !bs.isEmpty
  | .list items => !items.isEmpty
  | .tuple items => !items.isEmpty
  | .set items => !items.isEmpty
  | .dict entries => !entries.isEmpty
  | .foreign _ => true
  | .shared _ _ => true

end Store

end Marginalia
