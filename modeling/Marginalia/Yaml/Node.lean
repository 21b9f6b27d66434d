import Marginalia.Yaml.Scalar

/-!
# YAML nodes

The nodes of a document: every container that is met a second time, be it inside itself, is an
alias there, and the first one carries an anchor. So is an object that is written by its name.
Anchors are numbered in the order in which things are met for the second time.

## Main definitions

* `Yaml.Referent`: what an anchor stands for
* `Yaml.Node`: nodes
* `Yaml.Sightings`: the containers and objects met so far
* `Yaml.nameTag`: the tag of an object that is written by its name
* `Yaml.nodeOf`: the nodes of a dictionary
-/

namespace Marginalia

namespace Yaml

/-- What an anchor stands for. -/
inductive Referent where
  /-- A container of the store, by its number. -/
  | cell (address : Nat)
  /-- An object. -/
  | object (identity : Identity)
  deriving DecidableEq, Repr

/-- The nodes of a document. -/
inductive Node where
  /-- A scalar. -/
  | scalar (s : Scalar)
  /-- An object that is written by its name, which is part of its tag. -/
  | named (tag : Text)
  /-- A sequence with its tag, which is empty for a list. -/
  | sequence (tag : Text) (items : List Node)
  /-- A mapping with its tag, which is empty for a dictionary. -/
  | mapping (tag : Text) (entries : List (Node × Node))
  /-- A container or an object, where it is met first. -/
  | anchored (referent : Referent) (node : Node)
  /-- A later occurrence of a container or an object. -/
  | again (referent : Referent)
  deriving Repr

/-- What has been met so far, and what has been met twice in the order of the second time. -/
structure Sightings where
  /-- What has been met. -/
  seen : List Referent
  /-- What has been met twice. -/
  twice : List Referent

namespace Sightings

/-- Nothing has been met. -/
def none : Sightings := ⟨[], []⟩

/-- Something is met for the first time. -/
def first (m : Sightings) (i : Referent) : Sightings := { m with seen := i :: m.seen }

/-- Something is met again. -/
def repeated (m : Sightings) (i : Referent) : Sightings :=
  if m.twice.contains i then m else { m with twice := m.twice ++ [i] }

end Sightings

/-- The result of turning a part of a value into nodes. -/
abbrev Met (α : Type) := Except RenderFault (α × Sightings)

/-- A result with its node changed. -/
def Met.map {α β : Type} (f : α → β) (x : Met α) : Met β := Except.map (fun p => (f p.1, p.2)) x

/-- The tag of tuples. -/
def tupleTag : Text := "!!python/tuple".toList

/-- The tag of sets. -/
def setTag : Text := "!!set".toList

/-- An integer as a scalar, if it is short enough. -/
def intNode (i : Int) : Except RenderFault Node :=
  if Digits.tooLong i then .error .tooManyDigits else .ok (.scalar (.int i))

/-- Whether the character may stand in a tag as itself. -/
def isTagChar (c : Char) : Bool := c.isAlphanum || "-;/?:@&=+$,_.~*'()[]!".toList.contains c

/-- A character of a tag; what may not stand there is written byte by byte. -/
def tagChar (c : Char) : Text :=
  if isTagChar c then [c]
  else (Utf8.encodeChar c).flatMap fun b => '%' :: Digits.hexWide true 2 b.toNat

/-- The tag of an object that is written by its name. -/
def nameTag (name : Text) : Text := "!!python/name:".toList ++ name.flatMap tagChar

/-- The node of an object; one without a name has none. -/
def objectNode (o : Foreign) (m : Sightings) : Met Node :=
  match o.fullName? with
  | none => .error (.noForm o.className)
  | some name =>
    let i := Referent.object o.identity
    if m.seen.contains i then .ok (.again i, m.repeated i)
    else .ok (.anchored i (.named (nameTag name)), m.first i)

mutual

/-- The node of a value; `enter` gives the node of the container of a number. -/
def node (enter : Nat → Sightings → Met Node) : Value → Sightings → Met Node
  | .none, m => .ok (.scalar .null, m)
  | .bool b, m => .ok (.scalar (.bool b), m)
  | .int i, m => (intNode i).map (·, m)
  | .float x, m => .ok (.scalar (.float x), m)
  | .text s, m => .ok (.scalar (.text s), m)
  | .bytes bs, m => .ok (.scalar (.binary bs), m)
  | .foreign o, m => objectNode o m
  | .list items, m => (nodes enter items m).map (.sequence [])
  | .tuple items, m => (nodes enter items m).map (.sequence tupleTag)
  | .set items, m => (members enter items m).map (.mapping setTag)
  | .dict entries, m => (nodeEntries enter entries m).map (.mapping [])
  | .shared _ address, m => enter address m

/-- The nodes of values, in order. -/
def nodes (enter : Nat → Sightings → Met Node) : List Value → Sightings → Met (List Node)
  | [], m => .ok ([], m)
  | v :: vs, m =>
    match node enter v m with
    | .error e => .error e
    | .ok (n, m) => (nodes enter vs m).map (n :: ·)

/-- The members of a set as keys without values. -/
def members (enter : Nat → Sightings → Met Node) : List Value → Sightings → Met (List (Node × Node))
  | [], m => .ok ([], m)
  | v :: vs, m =>
    match node enter v m with
    | .error e => .error e
    | .ok (n, m) => (members enter vs m).map ((n, .scalar .null) :: ·)

/-- The nodes of entries, each key before its value. -/
def nodeEntries (enter : Nat → Sightings → Met Node) :
    Entries → Sightings → Met (List (Node × Node))
  | [], m => .ok ([], m)
  | (k, v) :: rest, m =>
    match node enter k m with
    | .error e => .error e
    | .ok (key, m) =>
      match node enter v m with
      | .error e => .error e
      | .ok (n, m) => (nodeEntries enter rest m).map ((key, n) :: ·)

end

/-- The node of the container of a number, with at most `fuel` containers inside one another. The
empty tuple is never an alias. -/
def enter (σ : Store) : Nat → Nat → Sightings → Met Node
  | 0, address, m => .ok (.again (.cell address), m.repeated (.cell address))
  | fuel + 1, address, m =>
    let i := Referent.cell address
    match σ.get? address with
    | none => .ok (.again i, m.repeated i)
    | some v =>
      match v with
      | .tuple [] => .ok (.sequence tupleTag [], m)
      | v =>
        if m.seen.contains i then .ok (.again i, m.repeated i)
        else (node (enter σ fuel) v (m.first i)).map (.anchored i)

/-- The node of a dictionary, and what has been met twice. -/
def nodeOf (σ : Store) (entries : Entries) : Met Node :=
  node (enter σ σ.cells.length) (.dict entries) .none

end Yaml

end Marginalia
