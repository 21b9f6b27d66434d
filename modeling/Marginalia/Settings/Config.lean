import Marginalia.Value.Basic

/-!
# Tags and configurations

## Main definitions

* `Tag`: an active tag and how its directives are shown
* `Config`: the tags of a text, in order of priority
-/

namespace Marginalia

/-- An active tag and how its directives are shown. Destination and format are kept as they were
given, usually a text or none. -/
structure Tag where
  /-- The name that directives use. -/
  name : Text
  /-- The number of calling frames that are shown after each directive. -/
  depth : Int
  /-- The file that receives the output; none stands for the error stream. -/
  target : Value
  /-- The name of the format of dumps and traces. -/
  format : Value
  deriving Repr, Inhabited

/-- The settings of one text. -/
structure Config where
  /-- The active tags, in order of priority. -/
  tags : List Tag
  /-- The destination of tags without one of their own. -/
  output : Value
  /-- The format of tags without one of their own. -/
  format : Text
  /-- Whether code in directives is run. -/
  execEnabled : Bool
  deriving Repr, Inhabited

end Marginalia
