import Marginalia.Yaml.Node

/-!
# YAML text

Nodes in block style, two columns a level. A sequence that is the value of a key on its line is not
indented; a container without tag and anchor starts on the line of the dash, the question mark or
the colon before it; an empty container is written with brackets.

## Main definitions

* `Yaml.Place`: where a node stands
* `Yaml.Node.write`: a node at a place
* `Yaml.render`: a dictionary

## Main results

* `Yaml.Place.opens_append`: an anchor or a tag moves a container to a line of its own
-/

namespace Marginalia

namespace Yaml

/-- Where a node stands. -/
inductive Place where
  /-- At the start of the document. -/
  | root
  /-- After the dash of an item. -/
  | item
  /-- After the question mark of a key, or the colon of a value on a line of its own. -/
  | mark
  /-- After a key and a colon on one line. -/
  | value
  deriving DecidableEq, Repr

namespace Place

/-- What separates a node from what stands before it on the line. -/
def gap : Place → Text
  | root => []
  | _ => [' ']

/-- Whether a container with the properties `props` starts on the line. -/
def opens (place : Place) (props : Text) : Bool := place != .value && props.isEmpty

/-- The indentation of a sequence inside a container indented by `indent`. -/
def sequenceIndent (place : Place) (props : Text) (indent : Nat) : Nat :=
  match place with
  | root => 0
  | item => indent + 2
  | mark => if props.isEmpty then indent + 2 else indent
  | value => indent

/-- The indentation of a mapping inside a container indented by `indent`. -/
def mappingIndent (place : Place) (indent : Nat) : Nat :=
  match place with
  | root => 0
  | _ => indent + 2

/-- **An anchor or a tag moves a container to a line of its own.** -/
theorem opens_append (place : Place) (c : Char) (props : Text) :
    place.opens (c :: props) = false := by
  simp [opens]

end Place

/-- The name of an anchor. -/
def anchorName (twice : List Referent) (i : Referent) : Text :=
  let digits := Digits.decimal (twice.idxOf i + 1)
  'i' :: 'd' :: List.replicate (3 - digits.length) '0' ++ digits

/-- The anchor of what is met again later. -/
def anchorOf (twice : List Referent) (i : Referent) : Text :=
  if twice.contains i then '&' :: anchorName twice i else []

/-- Two properties with a space between them. -/
def besides (a b : Text) : Text :=
  if a.isEmpty then b else if b.isEmpty then a else a ++ ' ' :: b

/-- A key on the line of its value, if the node may be one. -/
def lineKey? (twice : List Referent) : Node → Option Text
  | .scalar s => if s.fitsKey then some (s.write false 0 0) else none
  | .again i => some ('*' :: anchorName twice i)
  | .sequence tag [] => some (besides tag ['[', ']'])
  | .mapping tag [] => some (besides tag ['\x7b', '\x7d'])
  | _ => none

namespace Node

mutual

/-- The node at a place, inside a container indented by `indent`, after a line of `column`
characters; `props` are the anchor and the tag that go before it. -/
def write (twice : List Referent) (place : Place) (indent column : Nat) (props : Text) : Node → Text
  | scalar s =>
    let lead := place.gap ++ (if props.isEmpty then [] else props ++ [' '])
    lead ++ s.write true (indent + 2) (column + lead.length)
  | named tag => place.gap ++ besides (besides props tag) ['\'', '\'']
  | again i => place.gap ++ '*' :: anchorName twice i
  | anchored i n => write twice place indent column (anchorOf twice i) n
  | sequence tag items =>
    let props := besides props tag
    if items.isEmpty then place.gap ++ besides props ['[', ']']
    else
      let inner := place.sequenceIndent props indent
      let lead := if props.isEmpty then [] else place.gap ++ props
      lead ++ (if place.opens props then place.gap else newLine inner)
        ++ writeItems twice inner items
  | mapping tag entries =>
    let props := besides props tag
    if entries.isEmpty then place.gap ++ besides props ['\x7b', '\x7d']
    else
      let inner := place.mappingIndent indent
      let lead := if props.isEmpty then [] else place.gap ++ props
      lead ++ (if place.opens props then place.gap else newLine inner)
        ++ writeEntries twice inner entries

/-- The items of a sequence, one a line. -/
def writeItems (twice : List Referent) (indent : Nat) : List Node → Text
  | [] => []
  | n :: rest =>
    '-' :: write twice .item indent (indent + 1) [] n
      ++ (if rest.isEmpty then [] else newLine indent ++ writeItems twice indent rest)

/-- The entries of a mapping, one a line, or a key and a value each on a line of its own. -/
def writeEntries (twice : List Referent) (indent : Nat) : List (Node × Node) → Text
  | [] => []
  | (k, n) :: rest =>
    (match lineKey? twice k with
      | some key => key ++ ':' :: write twice .value indent (indent + key.length + 1) [] n
      | none =>
        '?' :: write twice .mark indent (indent + 1) [] k
          ++ newLine indent ++ ':' :: write twice .mark indent (indent + 1) [] n)
      ++ (if rest.isEmpty then [] else newLine indent ++ writeEntries twice indent rest)

end

end Node

/-- The YAML text of a dictionary. -/
def render (σ : Store) (entries : Entries) : Except RenderFault Text :=
  Except.map (fun met => met.1.write met.2.twice .root 0 0 [] ++ ['\n']) (nodeOf σ entries)

end Yaml

end Marginalia
