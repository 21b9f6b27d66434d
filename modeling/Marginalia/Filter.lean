import Marginalia.Rewrite
import Marginalia.Settings.Resolve

/-!
# Filtering a text

A text is rewritten under a configuration that is given or resolved from options. Without a
configuration it stays as it is.

## Main definitions

* `Setup`: a configuration, or options to resolve
* `FilterFault`: why a text cannot be filtered
* `Setup.filter`: the filtered text and the notices on the way

## Main results

* `Setup.filter_of_none`: without a configuration a text stays as it is
-/

namespace Marginalia

/-- Where the configuration comes from. -/
inductive Setup where
  /-- It is given. -/
  | config (c : Config)
  /-- It is resolved from options, whose values refer to containers of a store. -/
  | options (σ : Store) (o : Options)

/-- Why a text cannot be filtered. -/
inductive FilterFault where
  /-- The options cannot be resolved. -/
  | settings (e : SettingsFault)
  /-- A directive has no source text. -/
  | invocation (e : InvocationFault)
  deriving DecidableEq, Repr

/-- The class and the words of the fault. -/
def FilterFault.failure : FilterFault → Failure
  | settings e => ⟨e.className, e.message⟩
  | invocation e => ⟨e.className, e.message⟩

namespace Setup

/-- The configuration, if there is something to show, and the notices on the way. -/
def resolve (tree : FileTree) : Setup → List Notice × Except SettingsFault (Option Config)
  | config c => ([], .ok (some c))
  | options σ o => o.resolve tree σ

/-- The filtered text and the notices on the way. -/
def filter (tree : FileTree) (setup : Setup) (s : Text) :
    List Notice × Except FilterFault Text :=
  match setup.resolve tree with
  | (notices, .error e) => (notices, .error (.settings e))
  | (notices, .ok none) => (notices, .ok s)
  | (notices, .ok (some c)) =>
    match Rewrite.rewrite s c.tags c.execEnabled with
    | (more, .error e) => (notices ++ more, .error (.invocation e))
    | (more, .ok t) => (notices ++ more, .ok t)

/-- **Without a configuration a text stays as it is.** -/
theorem filter_of_none {tree : FileTree} {setup : Setup} {notices : List Notice}
    (h : setup.resolve tree = (notices, .ok none)) (s : Text) :
    setup.filter tree s = (notices, .ok s) := by
  simp [filter, h]

end Setup

end Marginalia
