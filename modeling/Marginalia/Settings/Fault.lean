import Marginalia.Files.Fault
import Marginalia.Json.Reader

/-!
# Why settings cannot be used

Faults of the settings themselves are configuration errors. A file name or a file that is no text
and a value that cannot be converted or described are faults of their own.

## Main definitions

* `SettingsFault`: the causes
* `SettingsFault.isConfig`: whether the settings themselves are at fault
* `SettingsFault.className`, `SettingsFault.message`: the words for them
-/

namespace Marginalia

/-- Why settings cannot be used. -/
inductive SettingsFault where
  /-- The file system does not give the file. -/
  | unreadable (path : Text) (e : SystemFault)
  /-- The text is no JSON text. -/
  | malformed (source : Text) (complaint : Json.Complaint) (pos : Nat)
  /-- The value is of this class instead of an object. -/
  | notObject (className : Text)
  /-- A tag has no name. -/
  | emptyName
  /-- An entry of this form is no tag. -/
  | invalidEntry (literal : Text)
  /-- The options of this form name no tag. -/
  | unnamed (literal : Text)
  /-- The number of frames of a tag is none. -/
  | badDepth (name literal : Text)
  /-- A file name or a file is no text. -/
  | file (e : FileFault)
  /-- An integer of this many digits is not converted. -/
  | tooLong (digits : Nat)
  /-- A value has no text. -/
  | value (e : RenderFault)
  deriving DecidableEq, Repr

namespace SettingsFault

/-- Whether the settings themselves are at fault. -/
def isConfig : SettingsFault → Bool
  | file _ => false
  | tooLong _ => false
  | value _ => false
  | _ => true

/-- The name of the class of errors that the fault belongs to. -/
def className : SettingsFault → Text
  | file e => e.className
  | tooLong _ => "ValueError".toList
  | value e => e.className
  | _ => "ConfigError".toList

/-- The words for the fault. -/
def message : SettingsFault → Text
  | unreadable path e =>
    "cannot read settings file ".toList ++ quote path ++ colonSpace ++ e.message
  | malformed source complaint pos =>
    "malformed settings JSON: ".toList ++ (Json.ReadFault.malformed complaint pos).message source
  | notObject className => "settings must be a JSON object, got ".toList ++ className
  | emptyName => "tag names must not be empty".toList
  | invalidEntry literal => "invalid tag entry ".toList ++ literal
  | unnamed literal => "tag entry ".toList ++ literal ++ " has no 'tag' name".toList
  | badDepth name literal =>
    "trace for tag ".toList ++ quote name ++ " must be an integer >= 0, got ".toList ++ literal
  | file e => e.message
  | tooLong digits => (Json.ReadFault.tooLong digits).message []
  | value e => e.message

end SettingsFault

end Marginalia
