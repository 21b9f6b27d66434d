import Marginalia.Files.Fault
import Marginalia.Render.Fault

/-!
# Notices

What the library reports about its own work, apart from debug output.

## Main definitions

* `Notice`: the reports
* `Notice.level`, `Notice.source`, `Notice.message`: their words
-/

namespace Marginalia

/-- A format that dictionaries are rendered in. -/
inductive Renderer where
  | yaml
  | json
  | data
  deriving DecidableEq, Repr

/-- The name of the format. -/
def Renderer.name : Renderer → Text
  | .yaml => "yaml".toList
  | .json => "json".toList
  | .data => "data".toList

/-- A destination of debug output: a file, or the error stream. -/
abbrev Destination := Option Text

/-- The file of a destination; an empty path stands for the error stream too. -/
def Destination.path? : Destination → Option Text
  | some (c :: path) => some (c :: path)
  | _ => none

/-- The destination as notices name it. -/
def Destination.shown (d : Destination) : Text := d.path?.getD "<stderr>".toList

/-- A report of the library. -/
inductive Notice where
  /-- A tag claimed directives of a text. -/
  | claimed (tag : Text) (count : Nat)
  /-- The variable that holds the settings is not set. -/
  | variableUnset (name : Text)
  /-- A file is about to be run. -/
  | running (path : Text)
  /-- A format failed on a payload. -/
  | fallback (renderer : Renderer)
  /-- A payload could not be rendered. -/
  | unrendered (destination : Destination) (e : Failure)
  /-- A text could not be written. -/
  | unwritten (destination : Destination) (e : SystemFault)
  deriving DecidableEq, Repr

namespace Notice

/-- How serious the report is. -/
inductive Level where
  | debug
  | warning
  deriving DecidableEq, Repr

/-- The level of a report. -/
def level : Notice → Level
  | unrendered _ _ => .warning
  | unwritten _ _ => .warning
  | _ => .debug

/-- The part of the library that reports. -/
def source : Notice → Text
  | claimed _ _ => "debugcomments.rewriter".toList
  | variableUnset _ => "debugcomments.config".toList
  | running _ => "debugcomments.runner".toList
  | fallback _ => "debugcomments.dispatch".toList
  | unrendered _ _ => "debugcomments.dispatch".toList
  | unwritten _ _ => "debugcomments.dispatch".toList

/-- The words of a report. -/
def message : Notice → Text
  | claimed tag count =>
    "tag ".toList ++ quote tag ++ " consumed ".toList ++ Digits.decimal count
      ++ " directive(s)".toList
  | variableUnset name =>
    "environment variable ".toList ++ name ++ " not set; directives disabled".toList
  | running path => "running ".toList ++ path ++ " with debugging comments".toList
  | fallback renderer => renderer.name ++ " renderer failed; using data".toList
  | unrendered destination e =>
    "debug output to ".toList ++ destination.shown ++ " could not be rendered: ".toList
      ++ e.className ++ colonSpace ++ e.message
  | unwritten destination e =>
    "debug output to ".toList ++ destination.shown ++ " failed: ".toList ++ e.message

end Notice

end Marginalia
