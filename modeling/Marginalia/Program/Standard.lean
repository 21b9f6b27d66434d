import Marginalia.Value.Basic

/-!
# The names of every program

A program that does not bind a name itself may still find a value under it: the functions, the
classes and the constants of the language.

## Main definitions

* `Program.standard?`: the value under a name
-/

namespace Marginalia

namespace Program

/-- The name that the unit of a program is bound to. -/
def unitKey : Text := "__name__".toList

/-- The name that the names of every program are bound to. -/
def namesWord : Text := "__builtins__".toList

/-- The names that no program binds: one of them decides what it finds under the names of every
program, the other one is a constant. -/
def fixedNames : List Text := [namesWord, "__debug__".toList]

/-- The unit of the names of every program. -/
def standardUnit : Text := "builtins".toList

/-- A name in a unit. -/
def inUnit (unit name : Text) : Text := unit ++ '.' :: name

/-- The functions of the language. -/
def standardFunctions : List Text :=
  Text.words (· == ' ')
    ("__build_class__ __import__ abs aiter all anext any ascii bin breakpoint callable chr " ++
      "compile delattr dir divmod eval exec format getattr globals hasattr hash hex id " ++
      "input isinstance issubclass iter len locals max min next oct open ord pow print repr " ++
      "round setattr sorted sum vars").toList

/-- The classes of the language. -/
def standardClasses : List Text :=
  Text.words (· == ' ')
    ("ArithmeticError AssertionError AttributeError BaseException BaseExceptionGroup " ++
      "BlockingIOError BrokenPipeError BufferError BytesWarning ChildProcessError " ++
      "ConnectionAbortedError ConnectionError ConnectionRefusedError ConnectionResetError " ++
      "DeprecationWarning EOFError EncodingWarning Exception ExceptionGroup FileExistsError " ++
      "FileNotFoundError FloatingPointError FutureWarning GeneratorExit ImportError " ++
      "ImportWarning IndentationError IndexError InterruptedError IsADirectoryError " ++
      "KeyError KeyboardInterrupt LookupError MemoryError ModuleNotFoundError NameError " ++
      "NotADirectoryError NotImplementedError OSError OverflowError " ++
      "PendingDeprecationWarning PermissionError ProcessLookupError RecursionError " ++
      "ReferenceError ResourceWarning RuntimeError RuntimeWarning StopAsyncIteration " ++
      "StopIteration SyntaxError SyntaxWarning SystemError SystemExit TabError TimeoutError " ++
      "TypeError UnboundLocalError UnicodeDecodeError UnicodeEncodeError UnicodeError " ++
      "UnicodeTranslateError UnicodeWarning UserWarning ValueError Warning " ++
      "ZeroDivisionError bool bytearray bytes classmethod complex dict enumerate filter " ++
      "float frozenset int list map memoryview object property range reversed set slice " ++
      "staticmethod str super tuple type zip").toList

/-- Other names of classes. -/
def classAliases : List (Text × Text) :=
  ["EnvironmentError", "IOError"].map fun n => (n.toList, "OSError".toList)

/-- The objects of the language with the names of their classes and what describes them. -/
def standardObjects : List (Text × Text × Text) :=
  [("Ellipsis", "ellipsis", "Ellipsis"),
    ("NotImplemented", "NotImplementedType", "NotImplemented"),
    ("exit", "Quitter", "Use exit() or Ctrl-D (i.e. EOF) to exit"),
    ("quit", "Quitter", "Use quit() or Ctrl-D (i.e. EOF) to exit"),
    ("help", "_Helper",
      "Type help() for interactive help, or help(object) for help about object.")].map
    fun (n, className, shown) => (n.toList, className.toList, shown.toList)

/-- The text about the names of every program. -/
def standardDoc : Text :=
  ("Built-in functions, types, exceptions, and other objects.\n\n" ++
    "This module provides direct access to all 'built-in'\n" ++
    "identifiers of Python; for example, builtins.len is\n" ++
    "the full name for the built-in function len().\n\n" ++
    "This module is not normally accessed explicitly by most\n" ++
    "applications, but can be useful in modules that provide\n" ++
    "objects with the same name as a built-in value, but in\n" ++
    "which the built-in of that name is also needed.").toList

/-- The constants of the language that are no keywords. -/
def standardConstants : List (Text × Value) :=
  [(unitKey, .text standardUnit), ("__doc__".toList, .text standardDoc),
    ("__package__".toList, .text []), ("__debug__".toList, .bool true)]

/-- The unit of a function of the language. -/
def functionUnit (n : Text) : Text := if n = "open".toList then "io".toList else standardUnit

/-- A function of the language. -/
def standardFunction (n : Text) : Value :=
  .foreign ⟨.common n, "builtin_function_or_method".toList,
    .shown (Text.enclosed "<built-in function ".toList ['>'] n),
    some (inUnit (functionUnit n) n)⟩

/-- A class of the language. -/
def standardClass (n : Text) : Value :=
  .foreign ⟨.common n, "type".toList, .shown (Text.enclosed "<class '".toList ['\'', '>'] n),
    some (inUnit standardUnit n)⟩

/-- The names of every program whose values are not described here. -/
def undescribed : List Text :=
  namesWord :: ["__loader__", "__spec__", "copyright", "credits", "license"].map String.toList

/-- The value that every program finds under a name. -/
def standard? (n : Text) : Option Value :=
  let className := (classAliases.lookup n).getD n
  match standardConstants.lookup n, standardObjects.lookup n with
  | some v, _ => some v
  | none, some (className, shown) => some (.foreign ⟨.common n, className, .shown shown, none⟩)
  | none, none =>
    if standardFunctions.contains n then some (standardFunction n)
    else if standardClasses.contains className then some (standardClass className)
    else none

end Program

end Marginalia
