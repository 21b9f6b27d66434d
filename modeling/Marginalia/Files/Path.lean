import Marginalia.Text.Cut
import Marginalia.Text.Utf8

/-!
# Paths

A path is a text; its parts stand between slashes. Normalising a path works on the text alone:
empty parts and dots vanish, and two dots take away the part before them.

## Main definitions

* `Path.parts`: the parts of a path, empty ones included
* `AbsolutePath`: a normalised path from the root, as the names on the way
* `Path.normal`: the normalised path of a text, relative to a directory

## Main results

* `Path.clean_append`: normalising goes part by part
-/

namespace Marginalia

/-- The name of a file or directory. -/
abbrev Name := Text

/-- The names on the way from the root to a file or directory. -/
abbrev Location := List Name

/-- A normalised path from the root. Two slashes at its front, but not three, are kept. -/
structure AbsolutePath where
  /-- Whether two slashes stand at the front. -/
  doubled : Bool
  /-- The names. -/
  location : Location
  deriving DecidableEq, Repr

namespace Path

/-- The part that stays in a directory. -/
def dot : Name := ['.']

/-- The part that leads to the directory above. -/
def dots : Name := ['.', '.']

/-- The parts of a path between its slashes, empty ones included. -/
def parts (raw : Text) : List Name := raw.splitAt '/'

/-- Whether the path starts from the root. -/
def isAbsolute (raw : Text) : Bool := raw.head? == some '/'

/-- The location reached by one more part. -/
def stepTo (here : Location) (part : Name) : Location :=
  if part.isEmpty ∨ part = dot then here
  else if part = dots then here.dropLast
  else here ++ [part]

/-- The location reached by some parts. -/
def clean (here : Location) (parts : List Name) : Location := parts.foldl stepTo here

@[simp] theorem clean_nil (here : Location) : clean here [] = here := rfl

/-- **Normalising goes part by part.** -/
theorem clean_append (here : Location) (ps qs : List Name) :
    clean here (ps ++ qs) = clean (clean here ps) qs := by
  simp [clean]

/-- The normalised path of a text, relative to the directory `home`. -/
def normal (home : Location) (raw : Text) : AbsolutePath where
  doubled := Text.startsWith ['/', '/'] raw && !Text.startsWith ['/', '/', '/'] raw
  location := clean (if isAbsolute raw then [] else home) (parts raw)

end Path

namespace AbsolutePath

/-- The text of the path. -/
def text (p : AbsolutePath) : Text :=
  (if p.doubled then ['/', '/'] else ['/']) ++ Text.joined ['/'] p.location

/-- The directory the path leads into. -/
def parent (p : AbsolutePath) : AbsolutePath := { p with location := p.location.dropLast }

end AbsolutePath

end Marginalia
