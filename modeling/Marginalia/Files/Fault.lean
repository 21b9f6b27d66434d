import Marginalia.Render.Shape
import Marginalia.Text.Encoding

/-!
# Why a file cannot be used

## Main definitions

* `SystemCause`: what the file system answers
* `FileFault`: the cause, with the path where there is one
* `FileFault.message`: the words for it
-/

namespace Marginalia

/-- The refusals of a file system. -/
inductive SystemCause where
  | notFound
  | exists
  | notDirectory
  | isDirectory
  | noSpace
  | nameTooLong
  deriving DecidableEq, Repr

namespace SystemCause

/-- The number of the refusal. -/
def number : SystemCause → Nat
  | notFound => 2
  | «exists» => 17
  | notDirectory => 20
  | isDirectory => 21
  | noSpace => 28
  | nameTooLong => 36

/-- The words for the refusal. -/
def message : SystemCause → Text
  | notFound => "No such file or directory".toList
  | «exists» => "File exists".toList
  | notDirectory => "Not a directory".toList
  | isDirectory => "Is a directory".toList
  | noSpace => "No space left on device".toList
  | nameTooLong => "File name too long".toList

/-- The name of the class of errors that the refusal belongs to. -/
def className : SystemCause → Text
  | notFound => "FileNotFoundError".toList
  | «exists» => "FileExistsError".toList
  | notDirectory => "NotADirectoryError".toList
  | isDirectory => "IsADirectoryError".toList
  | noSpace => "OSError".toList
  | nameTooLong => "OSError".toList

end SystemCause

/-- A refusal, with the path it concerns. -/
structure SystemFault where
  /-- The refusal. -/
  cause : SystemCause
  /-- The path, as it was given. -/
  path? : Option Text
  deriving DecidableEq, Repr

/-- The words for a refusal. -/
def SystemFault.message (e : SystemFault) : Text :=
  "[Errno ".toList ++ Digits.decimal e.cause.number ++ "] ".toList ++ e.cause.message
    ++ (match e.path? with
      | some path => colonSpace ++ quote path
      | none => [])

/-- Why a file cannot be used. -/
inductive FileFault where
  /-- The file system refuses. -/
  | system (e : SystemFault)
  /-- The path holds the character of code point zero. -/
  | nullByte
  /-- The path of a destination is empty. -/
  | emptyPath
  /-- A value of this class stands where a path belongs. -/
  | noPath (className : Text)
  /-- The text has no bytes in the encoding of the file. -/
  | encoding (e : EncodingFault)
  /-- The file is not UTF-8. -/
  | undecodable (e : Utf8.Broken)
  /-- The error stream that stands in for a file raises this. -/
  | stream (e : Failure)
  deriving DecidableEq, Repr

namespace FileFault

/-- A refusal that concerns a path. -/
def refused (cause : SystemCause) (path : Text) : FileFault := .system ⟨cause, some path⟩

/-- The words for the fault. -/
def message : FileFault → Text
  | system e => e.message
  | nullByte => "embedded null byte".toList
  | emptyPath => "path must not be empty".toList
  | noPath className => "expected str, bytes or os.PathLike object, not ".toList ++ className
  | encoding e => e.message
  | undecodable e => e.message
  | stream e => e.message

/-- The name of the class of errors that the fault belongs to. -/
def className : FileFault → Text
  | system e => e.cause.className
  | nullByte => "ValueError".toList
  | emptyPath => "ValueError".toList
  | noPath _ => "TypeError".toList
  | encoding e => e.className
  | undecodable _ => "UnicodeDecodeError".toList
  | stream e => e.className

end FileFault

end Marginalia
