import Marginalia.Value.Store

/-!
# Settled values

A program can share every container that it can reach. Settling values moves the containers that
stand in place into the store, so that the program meets references only.

## Main definitions

* `Store.box`: a container moved into the store
* `Store.settleInside`: a value whose members are settled
* `Store.settled`: entries whose values are settled, and the containers of the store with them

## Main results

* `Store.settleInside_text`: a text is settled
-/

namespace Marginalia

/-- The class of a container that stands in place. -/
def Value.kind? : Value → Option Kind
  | list _ => some .list
  | tuple _ => some .tuple
  | set _ => some .set
  | dict _ => some .dict
  | _ => Option.none

namespace Store

/-- A container moved into the store; any other value stays as it is. -/
def box (σ : Store) (v : Value) : Store × Value :=
  match v.kind? with
  | some kind =>
    let (σ, address) := σ.alloc v
    (σ, .shared kind address)
  | none => (σ, v)

mutual

/-- A value whose members are settled. -/
def settleInside (σ : Store) : Value → Store × Value
  | .list items =>
    let (σ, items) := settleAll σ items
    (σ, .list items)
  | .tuple items =>
    let (σ, items) := settleAll σ items
    (σ, .tuple items)
  | .set items =>
    let (σ, items) := settleAll σ items
    (σ, .set items)
  | .dict entries =>
    let (σ, entries) := settleEntries σ entries
    (σ, .dict entries)
  | v => (σ, v)

/-- Settled values. -/
def settleAll (σ : Store) : List Value → Store × List Value
  | [] => (σ, [])
  | v :: vs =>
    let (σ, v) := settleInside σ v
    let (σ, v) := σ.box v
    let (σ, vs) := settleAll σ vs
    (σ, v :: vs)

/-- Entries with settled values. -/
def settleEntries (σ : Store) : Entries → Store × Entries
  | [] => (σ, [])
  | (k, v) :: rest =>
    let (σ, v) := settleInside σ v
    let (σ, v) := σ.box v
    let (σ, rest) := settleEntries σ rest
    (σ, (k, v) :: rest)

end

/-- The store with the members of one container settled. -/
def settleCell (σ : Store) (address : Nat) : Store :=
  match σ.get? address with
  | some v =>
    let (σ, v) := σ.settleInside v
    σ.put address v
  | none => σ

/-- Entries with settled values, after the containers of the store. -/
def settled (σ : Store) (entries : Entries) : Store × Entries :=
  ((List.range σ.cells.length).foldl settleCell σ).settleEntries entries

/-- **A text is settled.** -/
@[simp] theorem settleInside_text (σ : Store) (s : Text) :
    σ.settleInside (.text s) = (σ, .text s) := rfl

end Store

end Marginalia
