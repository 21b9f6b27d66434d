import Marginalia.Text.Basic

/-!
# Why a value has no text

## Main definitions

* `Failure`: a class of errors and the words of one
* `RenderFault`: the causes
* `RenderFault.failure`: the words for them in warnings
-/

namespace Marginalia

/-- A class of errors and the words of one. -/
structure Failure where
  /-- The name of the class. -/
  className : Text
  /-- The words. -/
  message : Text
  deriving DecidableEq, Repr

/-- Why a value has no text in a format. -/
inductive RenderFault where
  /-- Describing an object failed with this message. -/
  | description (message : Text)
  /-- An integer has more digits than are converted. -/
  | tooManyDigits
  /-- A container stands inside itself, and the format has no references. -/
  | cycle
  /-- A key of this class is no key in the format. -/
  | keyClass (name : Text)
  /-- The format has no form for objects of this class. -/
  | noForm (name : Text)
  /-- The library that writes the format is missing. -/
  | noLibrary
  /-- The library that writes the format has raised this. -/
  | library (e : Failure)
  /-- A message stands where a dictionary belongs. -/
  | noDictionary
  deriving DecidableEq, Repr

namespace RenderFault

/-- The name of the class of errors that the cause belongs to. -/
def className : RenderFault → Text
  | description _ => "RuntimeError".toList
  | tooManyDigits => "ValueError".toList
  | cycle => "ValueError".toList
  | keyClass _ => "TypeError".toList
  | noForm _ => "TypeError".toList
  | noLibrary => "RuntimeError".toList
  | library e => e.className
  | noDictionary => "ValueError".toList

/-- The words for the cause. -/
def message : RenderFault → Text
  | description message => message
  | tooManyDigits =>
    ("Exceeds the limit (4300 digits) for integer string conversion; " ++
      "use sys.set_int_max_str_digits() to increase the limit").toList
  | cycle => "Circular reference detected".toList
  | keyClass name => "keys must be str, int, float, bool or None, not ".toList ++ name
  | noForm name => Text.enclosed "cannot pickle '".toList "' object".toList name
  | noLibrary => "PyYAML is not installed".toList
  | library e => e.message
  | noDictionary => "dictionary update sequence element #0 has length 1; 2 is required".toList

/-- The class of errors that the cause belongs to, and the words for it. -/
def failure (e : RenderFault) : Failure := ⟨e.className, e.message⟩

end RenderFault

end Marginalia
