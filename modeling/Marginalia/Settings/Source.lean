import Marginalia.Files.Tree
import Marginalia.Settings.Fault

/-!
# Sources of settings

Settings are a JSON object, given as a text or as the path of a file. A text that starts with a
brace, blanks aside, is the object itself.

## Main definitions

* `Settings.isLiteral`: whether a text is the object itself
* `Settings.decode`: the recognised members of an object
* `Settings.load`: the recognised members of the object that a text is or leads to

## Main results

* `Settings.load_literal`: an object given as a text needs no file
-/

namespace Marginalia

namespace Settings

/-- The member that lists the tags. -/
def showKey : Text := "show".toList

/-- The member that holds the destination. -/
def outputKey : Text := "output".toList

/-- The member that holds the format. -/
def formatKey : Text := "format".toList

/-- The recognised members, in the order in which they are kept. -/
def keys : List Text := [showKey, outputKey, formatKey]

/-- Whether the text is an object rather than a path. -/
def isLiteral (settings : Text) : Bool := settings.strip.head? == some '\x7b'

/-- The JSON text that a text is or leads to. -/
def textOf (tree : FileTree) (settings : Text) : Except SettingsFault Text :=
  if isLiteral settings then .ok settings.strip
  else
    match tree.readText settings with
    | .ok s => .ok s
    | .error (.system e) => .error (.unreadable settings e)
    | .error e => .error (.file e)

/-- The recognised members among some entries. -/
def recognised (entries : Entries) : Entries :=
  keys.filterMap fun key => (Value.lookup? key entries).map fun v => (.text key, v)

/-- The recognised members of the object of a JSON text. -/
def decode (s : Text) : Except SettingsFault Entries :=
  match Json.read s with
  | .error (.malformed complaint pos) => .error (.malformed s complaint pos)
  | .error (.tooLong digits) => .error (.tooLong digits)
  | .ok (.dict entries) => .ok (recognised entries)
  | .ok v => .error (.notObject v.typeName)

/-- The recognised members of the object that a text is or leads to. -/
def load (tree : FileTree) (settings : Text) : Except SettingsFault Entries :=
  match textOf tree settings with
  | .error e => .error e
  | .ok s => decode s

/-- **An object given as a text needs no file.** -/
theorem load_literal (tree : FileTree) {settings : Text} (h : isLiteral settings = true) :
    load tree settings = decode settings.strip := by
  simp [load, textOf, h]

end Settings

end Marginalia
