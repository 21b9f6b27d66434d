import Marginalia.Files.Fault
import Marginalia.Files.Path

/-!
# File trees

A file tree lists its files and directories by location; the root is a directory that is not
listed. Looking a path up walks through its parts one after another, so that every part but the
last has to be a directory, also where two dots would lead out of it again.

## Main definitions

* `FileTree`: files and directories by location, and the directory that relative paths start from
* `FileTree.walk`: the directory that some parts lead to
* `FileTree.read`: the bytes of a file
* `FileTree.append`: a file with bytes added at its end
* `FileTree.ensure`: a directory with all directories above it

## Main results

* `FileTree.find?_insert_self`, `FileTree.find?_insert_of_ne`: what is found after an insertion
-/

namespace Marginalia

/-- A file or a directory. -/
inductive Entry where
  | file (content : Bytes)
  | directory
  deriving DecidableEq, Repr

/-- Files and directories by location. -/
structure FileTree where
  /-- The directory that relative paths start from. -/
  home : Location
  /-- What stands where. -/
  entries : List (Location × Entry)
  deriving Repr

/-- The tree that an operation leaves, and what it gives. -/
abbrev Effect (α : Type) := FileTree × Except FileFault α

namespace FileTree

/-- What is found among entries. -/
def lookup : List (Location × Entry) → Location → Option Entry
  | [], _ => none
  | (l, e) :: rest, location => if l = location then some e else lookup rest location

/-- What stands at a location. -/
def find? (tree : FileTree) (location : Location) : Option Entry :=
  if location.isEmpty then some .directory else lookup tree.entries location

/-- The entries with an entry put at a location. -/
def put (location : Location) (e : Entry) : List (Location × Entry) → List (Location × Entry)
  | [] => [(location, e)]
  | (l, d) :: rest =>
    if l = location then (l, e) :: rest else (l, d) :: put location e rest

/-- The tree with an entry at a location. -/
def insert (tree : FileTree) (location : Location) (e : Entry) : FileTree :=
  { tree with entries := put location e tree.entries }

theorem lookup_put_self (location : Location) (e : Entry) (entries : List (Location × Entry)) :
    lookup (put location e entries) location = some e := by
  induction entries with
  | nil => simp [put, lookup]
  | cons x rest ih =>
    obtain ⟨l, d⟩ := x
    by_cases h : l = location <;> simp [put, lookup, h, ih]

theorem lookup_put_of_ne {location other : Location} (e : Entry) (h : other ≠ location)
    (entries : List (Location × Entry)) :
    lookup (put location e entries) other = lookup entries other := by
  induction entries with
  | nil => simp [put, lookup, Ne.symm h]
  | cons x rest ih =>
    obtain ⟨l, d⟩ := x
    by_cases hl : l = location
    · subst hl
      simp [put, lookup, Ne.symm h]
    · by_cases ho : l = other
      · subst ho
        simp [put, lookup, h]
      · simp [put, lookup, hl, ho, ih]

/-- **What was inserted is found.** -/
theorem find?_insert_self (tree : FileTree) {location : Location} (e : Entry)
    (h : location ≠ []) : (tree.insert location e).find? location = some e := by
  simp [find?, insert, h, lookup_put_self]

/-- **An insertion concerns its own location only.** -/
theorem find?_insert_of_ne (tree : FileTree) {location other : Location} (e : Entry)
    (h : other ≠ location) : (tree.insert location e).find? other = tree.find? other := by
  simp [find?, insert, lookup_put_of_ne e h]

@[simp] theorem home_insert (tree : FileTree) (location : Location) (e : Entry) :
    (tree.insert location e).home = tree.home := rfl

/-- The greatest length of a name, in bytes. -/
def maxName : Nat := 255

/-- The length beyond which a path is refused, in bytes. -/
def maxPath : Nat := 4095

/-- Whether the name is too long. -/
def longName (name : Name) : Bool := decide (maxName < (Utf8.encode name).length)

/-- What stands under a name in a directory. -/
def child? (tree : FileTree) (here : Location) (name : Name) : Except SystemCause (Option Entry) :=
  if longName name then .error .nameTooLong else .ok (tree.find? (here ++ [name]))

/-- The directory that one part leads to. -/
def enter (tree : FileTree) (here : Location) (part : Name) : Except SystemCause Location :=
  if part.isEmpty ∨ part = Path.dot ∨ part = Path.dots then .ok (Path.stepTo here part)
  else
    match tree.child? here part with
    | .error cause => .error cause
    | .ok none => .error .notFound
    | .ok (some (.file _)) => .error .notDirectory
    | .ok (some .directory) => .ok (here ++ [part])

/-- The directory that some parts lead to. -/
def walk (tree : FileTree) : Location → List Name → Except SystemCause Location
  | here, [] => .ok here
  | here, part :: rest =>
    match tree.enter here part with
    | .error cause => .error cause
    | .ok there => tree.walk there rest

/-- Where a path starts from. -/
def start (tree : FileTree) (raw : Text) : Location :=
  if Path.isAbsolute raw then [] else tree.home

/-- Whether the path holds the character of code point zero. -/
def hasNull (raw : Text) : Bool := raw.any fun c => c.toNat == 0

/-- Whether the whole path is too long. -/
def longPath (raw : Text) : Bool := decide (maxPath < (Utf8.encode raw).length)

/-- The bytes of the file that the parts of a path lead to. -/
def readParts (tree : FileTree) (here : Location) (parts : List Name) :
    Except SystemCause Bytes :=
  let last := parts.getLast?.getD []
  match tree.walk here parts.dropLast with
  | .error cause => .error cause
  | .ok there =>
    if last.isEmpty ∨ last = Path.dot ∨ last = Path.dots then .error .isDirectory
    else
      match tree.child? there last with
      | .error cause => .error cause
      | .ok none => .error .notFound
      | .ok (some .directory) => .error .isDirectory
      | .ok (some (.file content)) => .ok content

/-- The bytes of a file. -/
def read (tree : FileTree) (raw : Text) : Except FileFault Bytes :=
  if hasNull raw then .error .nullByte
  else if raw.isEmpty then .error (.refused .notFound raw)
  else if longPath raw then .error (.refused .nameTooLong raw)
  else
    match tree.readParts (tree.start raw) (Path.parts raw) with
    | .error cause => .error (.refused cause raw)
    | .ok content => .ok content

/-- The text of a file: UTF-8, with every line end written as a line feed. -/
def readText (tree : FileTree) (raw : Text) : Except FileFault Text :=
  match tree.read raw with
  | .error e => .error e
  | .ok content =>
    match Utf8.decode content with
    | .error e => .error (.undecodable e)
    | .ok s => .ok s.unixLines

/-- The location at which the parts of a path open a file for writing. A path that ends in a slash,
a dot or two dots can only lead to a directory. -/
def openParts (tree : FileTree) (here : Location) (parts : List Name) :
    Except SystemCause Location :=
  let named := (parts.reverse.dropWhile List.isEmpty).reverse
  let last := named.getLast?.getD []
  if last.isEmpty then .error .isDirectory
  else
    match tree.walk here named.dropLast with
    | .error cause => .error cause
    | .ok there =>
      if last = Path.dot ∨ last = Path.dots then .error .isDirectory
      else if named.length < parts.length then .error .isDirectory
      else
        match tree.child? there last with
        | .error cause => .error cause
        | .ok (some .directory) => .error .isDirectory
        | .ok _ => .ok (there ++ [last])

/-- The location at which a path opens a file for writing. -/
def openLocation (tree : FileTree) (raw : Text) : Except FileFault Location :=
  if hasNull raw then .error .nullByte
  else if raw.isEmpty then .error (.refused .notFound raw)
  else if longPath raw then .error (.refused .nameTooLong raw)
  else
    match tree.openParts (tree.start raw) (Path.parts raw) with
    | .error cause => .error (.refused cause raw)
    | .ok location => .ok location

/-- The bytes at a location; where there is no file there are none. -/
def contentAt (tree : FileTree) (location : Location) : Bytes :=
  match tree.find? location with
  | some (.file content) => content
  | _ => []

/-- The file of a path with the bytes of a text added at its end. The file exists from the moment it
is opened, even if the text has no bytes in the encoding. -/
def append (tree : FileTree) (raw : Text) (encoding : Encoding) (s : Text) : Effect Unit :=
  if !encoding.opens then (tree, .error (.encoding .noName))
  else
    match tree.openLocation raw with
    | .error e => (tree, .error e)
    | .ok location =>
      let before := tree.contentAt location
      match encoding.encode before.isEmpty s with
      | .error e => (tree.insert location (.file before), .error (.encoding e))
      | .ok added => (tree.insert location (.file (before ++ added)), .ok ())

/-- The directory above a location and the last name; the root has none. -/
def parentAndName? (location : Location) : Option (Location × Name) :=
  location.getLast?.map fun name => (location.dropLast, name)

/-- A new directory at a location whose path reads `shown`. -/
def makeDirectory (tree : FileTree) (location : Location) (shown : Text) : Effect Unit :=
  if hasNull shown then (tree, .error .nullByte)
  else if longPath shown then (tree, .error (.refused .nameTooLong shown))
  else
    match parentAndName? location with
    | none => (tree, .error (.refused .exists shown))
    | some (parent, name) =>
      match tree.walk [] parent with
      | .error cause => (tree, .error (.refused cause shown))
      | .ok there =>
        match tree.child? there name with
        | .error cause => (tree, .error (.refused cause shown))
        | .ok (some _) => (tree, .error (.refused .exists shown))
        | .ok none => (tree.insert location .directory, .ok ())

/-- Whether something stands at a location. -/
def occupied (tree : FileTree) (location : Location) : Bool := (tree.find? location).isSome

/-- A directory at the location of `path`, and every directory above it, given the names in reverse.
A directory that is there already is kept. -/
def ensureUp (tree : FileTree) (doubled : Bool) : List Name → Effect Unit
  | [] => (tree, .ok ())
  | name :: above =>
    let parent := above.reverse
    let location := parent ++ [name]
    let (tree, done) := if tree.occupied parent then (tree, .ok ()) else tree.ensureUp doubled above
    match done with
    | .error e => (tree, .error e)
    | .ok () =>
      -- A refusal does not matter if the directory is there already.
      match tree.makeDirectory location (AbsolutePath.text ⟨doubled, location⟩) with
      | (tree, .ok ()) => (tree, .ok ())
      | (tree, .error e) =>
        if tree.find? location = some .directory then (tree, .ok ()) else (tree, .error e)

/-- The directory of a path and every directory above it. -/
def ensure (tree : FileTree) (path : AbsolutePath) : Effect Unit :=
  tree.ensureUp path.doubled path.location.reverse

end FileTree

end Marginalia
