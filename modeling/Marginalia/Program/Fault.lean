import Marginalia.Files.Fault
import Marginalia.Notice
import Marginalia.Text.Cut

/-!
# Why a program stops

## Main definitions

* `ProgramFault`: the causes
* `ProgramFault.failure`: the class and the words of a cause
-/

namespace Marginalia

/-- Why a program stops. -/
inductive ProgramFault where
  /-- A name is not bound. -/
  | unbound (n : Text)
  /-- A name of a function is not bound yet. -/
  | unassigned (n : Text)
  /-- An operator has no operands of these classes. -/
  | operands (op left right : Text)
  /-- A sign has no operand of this class. -/
  | operand (sign className : Text)
  /-- A value of the second class cannot be put behind one of the first. -/
  | concatenation (className other : Text)
  /-- A value of this class cannot be put behind bytes. -/
  | byteConcatenation (other : Text)
  /-- A value of this class is no number of repetitions. -/
  | repetition (other : Text)
  /-- A number of repetitions is too large. -/
  | tooOften
  /-- The result of an operation is too long. -/
  | tooLong
  /-- An integer is too large for a float. -/
  | noFloat
  /-- A value of this class cannot be a key. -/
  | unhashable (className : Text)
  /-- A value, which these words name, has no items. -/
  | noItems (subject : Text)
  /-- A sequence, whose class may have no name, has no item at a place. -/
  | outOfRange (sequence : Text)
  /-- No sequence is long enough for a place. -/
  | tooFar
  /-- A dictionary has no such key. -/
  | noKey (place : Int)
  /-- A value, which these words name, has no such part. -/
  | noPart (subject part : Text)
  /-- A value of this class is no function. -/
  | noRoutine (className : Text)
  /-- A function is called with too few arguments. -/
  | missing (routine : Text) (parameters : List Text)
  /-- A function is called with too many arguments. -/
  | surplus (routine : Text) (expected given : Nat)
  /-- Too many calls are in progress. -/
  | tooDeep
  /-- What the language has under this name is not described here. -/
  | beyond (n : Text)
  /-- Debug output goes to a path that is none. -/
  | delivery (e : FileFault)
  deriving DecidableEq, Repr

namespace Value

/-- The name of a class that is itself a value. -/
def classShown? : Value → Option Text
  | foreign o =>
    if o.className = "type".toList then o.fullName?.map (Text.afterLast '.') else Option.none
  | _ => Option.none

/-- A value by the words that tell its class. -/
def objectOf (className : Text) : Text := quote className ++ " object".toList

/-- The words that name a value of which a part is wanted. -/
def subject (v : Value) : Text :=
  match v.classShown? with
  | some n => "type object ".toList ++ quote n
  | Option.none => objectOf v.typeName

end Value

/-- The words for a part that a value does not have. -/
def noPartMessage (subject part : Text) : Text :=
  subject ++ " has no attribute ".toList ++ quote part

namespace Value

/-- The name of a value of the language. -/
def standardName? : Value → Option Text
  | foreign o =>
    match o.identity with
    | .common n => some n
    | .made _ => Option.none
  | _ => Option.none

/-- Why a value is not called. The functions and the classes of the language can be called, but what
they do is not described here. -/
def callFault (v : Value) : ProgramFault :=
  match v.standardName? with
  | some n => .beyond n
  | Option.none => .noRoutine v.typeName

/-- Why a value has no items. Those of a class are not described here. -/
def itemFault (v : Value) : ProgramFault :=
  match v.classShown? with
  | some n => .beyond n
  | Option.none => .noItems (objectOf v.typeName)

/-- Why nothing is put at the end of a value. What a class does then is not described here. -/
def appendFault (v : Value) : ProgramFault :=
  match v.classShown? with
  | some n => .beyond n
  | Option.none => .noPart (objectOf v.typeName) "append".toList

end Value

namespace ProgramFault

/-- The words that enumerate names. -/
def enumeration : List Text → Text
  | [] => []
  | [n] => quote n
  | [n, m] => quote n ++ " and ".toList ++ quote m
  | names =>
    Text.joined commaSpace (names.dropLast.map quote) ++ ", and ".toList
      ++ quote (names.getLast?.getD [])

/-- The ending of a noun after a number. -/
def plural (n : Nat) : Text := if n = 1 then [] else ['s']

/-- The words for a number that is too large for a place. -/
def tooWide : Text := "cannot fit 'int' into an index-sized integer".toList

/-- The words for the cause. -/
def message : ProgramFault → Text
  | unbound n => "name ".toList ++ quote n ++ " is not defined".toList
  | unassigned n =>
    "cannot access local variable ".toList ++ quote n
      ++ " where it is not associated with a value".toList
  | operands op left right =>
    "unsupported operand type(s) for ".toList ++ op ++ colonSpace ++ quote left ++ " and ".toList
      ++ quote right
  | operand sign className =>
    "bad operand type for unary ".toList ++ sign ++ colonSpace ++ quote className
  | concatenation className other =>
    "can only concatenate ".toList ++ className
      ++ Text.enclosed " (not \"".toList "\") to ".toList other ++ className
  | byteConcatenation other => Text.enclosed "can't concat ".toList " to bytes".toList other
  | repetition other => "can't multiply sequence by non-int of type ".toList ++ quote other
  | tooOften => tooWide
  | tooLong => []
  | noFloat => "int too large to convert to float".toList
  | unhashable className => "unhashable type: ".toList ++ quote className
  | noItems subject => subject ++ " is not subscriptable".toList
  | outOfRange sequence =>
    (if sequence.isEmpty then [] else sequence ++ [' ']) ++ "index out of range".toList
  | tooFar => tooWide
  | noKey place => Digits.decimalInt place
  | noPart subject part => noPartMessage subject part
  | noRoutine className => quote className ++ " object is not callable".toList
  | missing routine parameters =>
    routine ++ "() missing ".toList ++ Digits.decimal parameters.length
      ++ " required positional argument".toList ++ plural parameters.length ++ colonSpace
      ++ enumeration parameters
  | surplus routine expected given =>
    routine ++ "() takes ".toList ++ Digits.decimal expected ++ " positional argument".toList
      ++ plural expected ++ " but ".toList ++ Digits.decimal given
      ++ (if given = 1 then " was given".toList else " were given".toList)
  | tooDeep => "maximum recursion depth exceeded".toList
  | beyond n => quote n ++ " is not described".toList
  | delivery e => e.message

/-- The name of the class of errors that the cause belongs to. -/
def className : ProgramFault → Text
  | unbound _ => "NameError".toList
  | unassigned _ => "UnboundLocalError".toList
  | tooOften => "OverflowError".toList
  | tooLong => "MemoryError".toList
  | noFloat => "OverflowError".toList
  | outOfRange _ => "IndexError".toList
  | tooFar => "IndexError".toList
  | noKey _ => "KeyError".toList
  | noPart _ _ => "AttributeError".toList
  | tooDeep => "RecursionError".toList
  | beyond _ => "NotImplementedError".toList
  | delivery e => e.className
  | _ => "TypeError".toList

/-- The class and the words of the cause. -/
def failure (e : ProgramFault) : Failure := ⟨e.className, e.message⟩

end ProgramFault

end Marginalia
