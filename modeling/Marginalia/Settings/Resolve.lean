import Marginalia.Notice
import Marginalia.Settings.Config
import Marginalia.Settings.Source
import Marginalia.Text.LowerCase

/-!
# Resolving options

Options come from the caller, from settings and from a variable that holds settings; what the
settings say in so many words wins. The result is a complete configuration, or none where there is
nothing to show.

## Main definitions

* `Options`: what the caller asks for
* `Options.source`: the settings that apply
* `Tag.ofEntry`: the tag that one entry describes
* `Options.config`: the configuration of options whose settings have been applied
* `Options.resolve`: the configuration of options

## Main results

* `Options.resolve_of_unset`: without the variable there is no configuration
-/

namespace Marginalia

/-- What the caller asks for; values refer to containers of a store. -/
structure Options where
  /-- The tags: one entry or a list of them. -/
  shown : Value
  /-- The destination of tags without one of their own. -/
  output : Value
  /-- The format of tags without one of their own. -/
  format : Value
  /-- Whether code in directives is run. -/
  execEnabled : Value
  /-- The settings: an object or a path. -/
  settings : Option Text
  /-- The variable that holds settings. -/
  variableName : Option Text
  /-- The variables and what they hold. -/
  environment : List (Text × Text)

namespace Options

/-- No options at all. -/
def empty : Options := ⟨.none, .none, .none, .bool false, none, none, []⟩

/-- What a variable holds; a variable that is not set holds nothing. -/
def held (o : Options) (name : Text) : Text := (o.environment.lookup name).getD []

/-- The settings that apply, if any; the name of the variable where it is not set. -/
def source (o : Options) : Except Text (Option Text) :=
  match o.variableName with
  | none => .ok o.settings
  | some name =>
    if name.isEmpty then .ok o.settings
    else if (o.held name).isEmpty then .error name
    else .ok (some (o.held name))

end Options

/-- A value, unless a member of the settings counts as true. -/
def overridden (σ : Store) (overrides : Entries) (key : Text) (v : Value) : Value :=
  match Value.lookup? key overrides with
  | some w => if σ.truthy w then w else v
  | none => v

/-- The options with the members of settings in the place of the caller's. -/
def Options.override (σ : Store) (overrides : Entries) (o : Options) : Options :=
  { o with
    shown := overridden σ overrides Settings.showKey o.shown
    output := overridden σ overrides Settings.outputKey o.output
    format := overridden σ overrides Settings.formatKey o.format }

/-- A value as text: a text is itself, everything else its literal. -/
def Store.textOf (σ : Store) (v : Value) : Except SettingsFault Text :=
  match σ.view v with
  | .text s => .ok s
  | _ =>
    match (σ.expand v).literal with
    | .ok s => .ok s
    | .error e => .error (.value e)

/-- The literal of a value inside a fault. -/
def Store.faultOf (σ : Store) (f : Text → SettingsFault) (v : Value) : SettingsFault :=
  match (σ.expand v).literal with
  | .ok s => f s
  | .error e => .value e

/-- The format used where none is named. -/
def defaultFormat : Text := "data".toList

/-- The name of a format in lower case, or of another where the value counts as false. -/
def Store.formatName (σ : Store) (v : Value) (other : Text) : Except SettingsFault Text :=
  if σ.truthy v then (σ.textOf v).map Text.lower else .ok other

namespace Tag

/-- The member that names the tag. -/
def nameKey : Text := "tag".toList

/-- The member that holds the number of frames. -/
def depthKey : Text := "trace".toList

/-- The number of frames that a value asks for: none where it counts as false, and otherwise an
integer that is not negative. -/
def depthOf? (σ : Store) (v : Value) : Option Nat :=
  if σ.truthy v then
    match v with
    | .int i => if i < 0 then none else some i.toNat
    | _ => none
  else some 0

/-- The tag of a name, with the destination and format of tags without their own. -/
def ofName (output : Value) (format name : Text) : Except SettingsFault Tag :=
  if name.strip.isEmpty then .error .emptyName else .ok ⟨name.strip, 0, output, .text format⟩

/-- The fault of options without a name: they are shown apart from where they stand. -/
def unnamedFault (σ : Store) (options : Entries) : SettingsFault :=
  match (Value.dict (σ.expandEntries options)).literal with
  | .ok s => .unnamed s
  | .error e => .value e

/-- The name that options give, if it is one. -/
def nameOf? (options : Entries) : Option Text :=
  match Value.lookup? nameKey options with
  | some (.text name) => if name.strip.isEmpty then none else some name
  | _ => none

/-- The tag that options describe. -/
def ofOptions (σ : Store) (output : Value) (format : Text) (options : Entries) :
    Except SettingsFault Tag :=
  match nameOf? options with
  | none => .error (unnamedFault σ options)
  | some name =>
    let asked := (Value.lookup? depthKey options).getD (.int 0)
    match depthOf? σ asked with
    | none => .error (σ.faultOf (.badDepth name) asked)
    | some depth =>
      let target := (Value.lookup? Settings.outputKey options).getD output
      match σ.formatName ((Value.lookup? Settings.formatKey options).getD .none) format with
      | .error e => .error e
      | .ok format => .ok ⟨name.strip, depth, σ.expand target, .text format⟩

/-- The tag that an entry describes: a name, or options. -/
def ofEntry (σ : Store) (output : Value) (format : Text) (entry : Value) :
    Except SettingsFault Tag :=
  match σ.view entry with
  | .text name => ofName (σ.expand output) format name
  | .dict options => ofOptions σ output format options
  | _ => .error (σ.faultOf .invalidEntry entry)

/-- The tags that entries describe, in order; the first fault ends the reading. -/
def ofEntries (σ : Store) (output : Value) (format : Text) :
    List Value → Except SettingsFault (List Tag)
  | [] => .ok []
  | entry :: rest =>
    match ofEntry σ output format entry with
    | .error e => .error e
    | .ok tag => (ofEntries σ output format rest).map (tag :: ·)

end Tag

/-- The entries that a value lists; any value but a list or a tuple is the only one. -/
def Store.entriesIn (σ : Store) (v : Value) : List Value :=
  match σ.view v with
  | .list items => items
  | .tuple items => items
  | _ => [v]

namespace Options

/-- The configuration of options whose settings have been applied. -/
def config (σ : Store) (o : Options) : Except SettingsFault (Option Config) :=
  if σ.truthy o.shown then
    match σ.formatName o.format defaultFormat with
    | .error e => .error e
    | .ok format =>
      match Tag.ofEntries σ o.output format (σ.entriesIn o.shown) with
      | .error e => .error e
      | .ok tags => .ok (some ⟨tags, σ.expand o.output, format, σ.truthy o.execEnabled⟩)
  else .ok none

/-- The configuration of options under the settings that apply. -/
def configFrom (tree : FileTree) (σ : Store) (o : Options) :
    Option Text → Except SettingsFault (Option Config)
  | none => o.config σ
  | some settings =>
    match Settings.load tree settings with
    | .error e => .error e
    | .ok overrides => (o.override σ overrides).config σ

/-- The configuration of options, if there is something to show, and the notices on the way. -/
def resolve (tree : FileTree) (σ : Store) (o : Options) :
    List Notice × Except SettingsFault (Option Config) :=
  match o.source with
  | .error name => ([.variableUnset name], .ok none)
  | .ok settings => ([], o.configFrom tree σ settings)

/-- **Without the variable there is no configuration.** -/
theorem resolve_of_unset (tree : FileTree) (σ : Store) {o : Options} {name : Text}
    (h : o.variableName = some name) (hn : name ≠ []) (hv : o.held name = []) :
    o.resolve tree σ = ([.variableUnset name], .ok none) := by
  simp [resolve, source, h, hn, hv]

end Options

end Marginalia
