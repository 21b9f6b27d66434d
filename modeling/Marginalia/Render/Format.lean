import Marginalia.Notice
import Marginalia.Json.Writer
import Marginalia.Render.Layout
import Marginalia.Text.LowerCase
import Marginalia.Yaml.Writer

/-!
# Choosing a format

A format is chosen by its name, letter case aside; the plain data format stands in for unknown
names. YAML needs a library that may be missing: once it has been found it stays in use, a failed
look-up is repeated the next time. What the library makes of a dictionary is its own business, and
nothing is taken for granted about it.

## Main definitions

* `YamlDumper`: what the YAML library makes of a dictionary
* `Library`: whether the YAML library can be found, and whether it has been
* `Renderer.select`: the format of a name
* `Renderer.render`: a dictionary in a format
* `Content.render`: the text of a message or a dictionary, with the data format as the last resort

## Main results

* `Library.available_of_loaded`: a library in use stays available
* `Renderer.select_eq_yaml_iff`: when YAML is chosen
-/

namespace Marginalia

/-- What the YAML library makes of a dictionary. As a class it need not be handed to every
rendering; a statement about all libraries is about all of its instances. -/
class YamlDumper where
  /-- The text of the dictionary, or what the library raises. -/
  dump : Store → Entries → Except Failure Text

/-- The library that programs run with, as far as `Yaml.render` describes it. -/
instance : YamlDumper where
  dump σ entries := (Yaml.render σ entries).mapError RenderFault.failure

/-- The YAML library: whether it can be found now, whether it has been found, and what it writes. -/
structure Library where
  /-- It can be found. -/
  importable : Bool
  /-- It has been found and is in use. -/
  loaded : Bool
  /-- What it makes of a dictionary. -/
  [dumper : YamlDumper]

namespace Library

/-- Looks for the library, unless it is in use already. -/
def find (lib : Library) : Library := { lib with loaded := lib.loaded || lib.importable }

/-- Whether a look-up succeeds. -/
def available (lib : Library) : Bool := lib.find.loaded

/-- **A library in use stays available.** -/
theorem available_of_loaded {lib : Library} (h : lib.loaded = true) : lib.available = true := by
  simp [available, find, h]

end Library

namespace Renderer

/-- The name of a wanted format in lower case; no format is the empty name. -/
def wanted (format : Option Text) : Text := (format.getD []).lower

/-- The format of a name, and the library after looking for it. -/
def select (lib : Library) (format : Option Text) : Renderer × Library :=
  let name := wanted format
  if name = Renderer.yaml.name then
    if lib.available then (.yaml, lib.find) else (.data, lib.find)
  else if name = Renderer.json.name then (.json, lib)
  else (.data, lib)

/-- **YAML is chosen exactly when it is wanted and available.** -/
theorem select_eq_yaml_iff (lib : Library) (format : Option Text) :
    (select lib format).1 = .yaml ↔ wanted format = Renderer.yaml.name ∧ lib.available = true := by
  unfold select
  by_cases h : wanted format = Renderer.yaml.name
  · by_cases ha : lib.available = true <;> simp [h, ha]
  · by_cases hj : wanted format = Renderer.json.name <;> simp_all

/-- A dictionary in a format, and the library after looking for it. -/
def render (renderer : Renderer) (lib : Library) (σ : Store) (entries : Entries) :
    Except RenderFault Text × Library :=
  match renderer with
  | .data => (Data.render σ entries, lib)
  | .json => (Json.render σ entries, lib)
  | .yaml =>
    (if lib.available then (lib.dumper.dump σ entries).mapError .library else .error .noLibrary,
      lib.find)

end Renderer

/-- What is shown: a message, or a dictionary. -/
inductive Content where
  | message (s : Text)
  | table (entries : Entries)

/-- Some content in a format. A message is no dictionary, unless it is empty. -/
def Renderer.renderContent (renderer : Renderer) (lib : Library) (σ : Store) :
    Content → Except RenderFault Text × Library
  | .table entries => renderer.render lib σ entries
  | .message s =>
    match renderer.render lib σ [], s.isEmpty with
    | (.ok _, lib), false => (.error .noDictionary, lib)
    | r, _ => r

/-- A rendering: the text or its fault, the library, and the notices on the way. -/
structure Rendering where
  /-- The text, or why there is none. -/
  result : Except RenderFault Text
  /-- The library afterwards. -/
  library : Library
  /-- The notices, in order. -/
  notices : List Notice

/-- The text of some content. A message is its own text; a dictionary that the wanted format fails
on is rendered in the data format. -/
def Content.render (lib : Library) (σ : Store) (format : Option Text) : Content → Rendering
  | .message s => ⟨.ok s, lib, []⟩
  | .table entries =>
    let (renderer, lib) := Renderer.select lib format
    let (result, lib) := renderer.render lib σ entries
    match result with
    | .ok s => ⟨.ok s, lib, []⟩
    | .error e =>
      if renderer = .data then ⟨.error e, lib, []⟩
      else ⟨Data.render σ entries, lib, [.fallback renderer]⟩

end Marginalia
