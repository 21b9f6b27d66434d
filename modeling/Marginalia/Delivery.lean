import Marginalia.Files.Tree
import Marginalia.Render.Format
import Marginalia.Trace

/-!
# Delivering debug output

Debug output is rendered and then written to the error stream or appended to a file. What cannot be
rendered and what the file system refuses is reported and otherwise ignored: debug output must not
stop the program that asks for it. What escapes are the faults of a path that is no path at all and
of an error stream that is closed or missing.

A text has bytes in UTF-8, since it holds no lone surrogates: no fault of an encoding stands between
a text and a file.

## Main definitions

* `StreamState`: whether the error stream takes texts
* `Outlets`: the files, the error stream and the YAML library
* `Outlets.write`: a text written to a destination
* `Outlets.deliver`: content rendered and written, with the notices on the way

## Main results

* `terminated_getLast?`: what is written ends its line
* `Outlets.deliver_stream_ok`: no fault escapes from a delivery to an open error stream
-/

namespace Marginalia

/-- Whether the error stream takes texts. -/
inductive StreamState where
  /-- It takes texts. -/
  | writable
  /-- The device behind it is full. -/
  | noSpace
  /-- Writing to it raises this, which is no refusal of a system: it has been closed, or there is no
  error stream. -/
  | raises (e : Failure)
  deriving DecidableEq, Repr

namespace StreamState

/-- A stream that is full, or takes texts. -/
instance : Coe Bool StreamState where
  coe full := if full then .noSpace else .writable

/-- The stream is there and open; it may be full. -/
def IsOpen (s : StreamState) : Prop := ∀ e, s ≠ .raises e

instance (s : StreamState) : Decidable s.IsOpen :=
  match s with
  | .writable => .isTrue nofun
  | .noSpace => .isTrue nofun
  | .raises e => .isFalse fun h => h e rfl

/-- An error stream that has been closed. -/
def closed : StreamState := .raises ⟨"ValueError".toList, "I/O operation on closed file.".toList⟩

/-- No error stream. -/
def missing : StreamState :=
  .raises ⟨"AttributeError".toList, "'NoneType' object has no attribute 'write'".toList⟩

end StreamState

/-- Where debug output goes. -/
structure Outlets where
  /-- The files. -/
  files : FileTree
  /-- What the error stream has received. -/
  stream : Text
  /-- Whether the error stream takes more. -/
  full : StreamState
  /-- The library that writes YAML. -/
  library : Library

/-- What a delivery leaves: the outlets, the notices on the way, and whether the output has been
written. -/
structure Delivery where
  /-- The outlets afterwards. -/
  outlets : Outlets
  /-- The notices, in order. -/
  notices : List Notice
  /-- Whether the output has been written, or the fault that escapes. -/
  result : Except FileFault Bool

/-- The text with a line feed at its end, unless there is one. -/
def terminated (s : Text) : Text := if s.getLast? = some '\n' then s else s ++ ['\n']

/-- **What is written ends its line.** -/
theorem terminated_getLast? (s : Text) : (terminated s).getLast? = some '\n' := by
  unfold terminated
  split
  · assumption
  · simp

/-- A text appended to a file, whose directory is made where it is missing. -/
def FileTree.deliver (tree : FileTree) (path : Text) (encoding : Encoding) (s : Text) :
    Effect Unit :=
  if path.isEmpty then (tree, .error .emptyPath)
  else
    match tree.ensure (Path.normal tree.home path).parent with
    | (tree, .error e) => (tree, .error e)
    | (tree, .ok ()) => tree.append path encoding (terminated s)

namespace Outlets

/-- A text written to the error stream. -/
def writeStream (o : Outlets) (s : Text) : Outlets × Except FileFault Unit :=
  match o.full with
  | .writable => ({ o with stream := o.stream ++ terminated s }, .ok ())
  | .noSpace => (o, .error (.system ⟨.noSpace, none⟩))
  | .raises e => (o, .error (.stream e))

/-- A text written to a destination; no destination and an empty path stand for the error
stream. -/
def write (o : Outlets) (destination : Destination) (s : Text) : Outlets × Except FileFault Unit :=
  match destination.path? with
  | some path =>
    let (files, result) := o.files.deliver path (.utf8 false) s
    ({ o with files }, result)
  | none => o.writeStream s

/-- The notice that content has no text. -/
def unrendered (destination : Destination) (e : RenderFault) : Notice :=
  .unrendered destination e.failure

/-- A text written to a destination after the notices so far. -/
def send (o : Outlets) (notices : List Notice) (destination : Destination) (s : Text) : Delivery :=
  match o.write destination s with
  | (o, .ok ()) => ⟨o, notices, .ok true⟩
  | (o, .error (.system e)) => ⟨o, notices ++ [.unwritten destination e], .ok false⟩
  | (o, .error e) => ⟨o, notices, .error e⟩

/-- Content rendered in a format and written to a destination. -/
def deliver (o : Outlets) (σ : Store) (destination : Destination) (format : Option Text)
    (content : Content) : Delivery :=
  let r := content.render o.library σ format
  let o := { o with library := r.library }
  match r.result with
  | .error e => ⟨o, r.notices ++ [unrendered destination e], .ok false⟩
  | .ok s => o.send r.notices destination s

/-- **No fault escapes from a delivery to an open error stream.** -/
theorem deliver_stream_ok {o : Outlets} (ho : o.full.IsOpen) (σ : Store) (format : Option Text)
    (content : Content) : ∃ written, (o.deliver σ none format content).result = .ok written := by
  cases hr : (content.render o.library σ format).result with
  | error e => exact ⟨false, by simp [deliver, hr]⟩
  | ok s =>
    cases h : o.full with
    | writable =>
      exact ⟨true, by simp [deliver, hr, send, write, writeStream, Destination.path?, h]⟩
    | noSpace =>
      exact ⟨false, by simp [deliver, hr, send, write, writeStream, Destination.path?, h]⟩
    | raises e => exact absurd h (ho e)

/-- A trace of some calls, rendered and written. -/
def deliverTrace (o : Outlets) (σ : Store) (destination : Destination) (depth : Int)
    (format : Option Text) (stack : List Frame) : Delivery :=
  o.deliver σ destination format (.table (Trace.payload (Trace.collect stack depth 0)))

end Outlets

end Marginalia
