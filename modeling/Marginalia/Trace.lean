import Marginalia.Text.Cut
import Marginalia.Value.Basic

/-!
# Traces

A trace describes the calls that are in progress, the innermost first. Running out of them ends a
trace early.

## Main definitions

* `Frame`: a call in progress
* `FrameInfo`: what a trace says about it
* `Trace.collect`: the description of some of the innermost calls
* `Trace.payload`: a trace as a dictionary

## Main results

* `Trace.collect_add`: a long trace is a short one followed by a trace that skips it
* `Trace.length_collect`: the number of calls that a trace describes
-/

namespace Marginalia

/-- A call in progress. -/
structure Frame where
  /-- The name of the unit of code, if it has one. -/
  unit? : Option Value
  /-- The file of the code. -/
  file : Text
  /-- The line that is being run. -/
  line : Int
  /-- The name of the code with the names around it. -/
  code : Text
  deriving Repr

/-- What a trace says about a call. -/
structure FrameInfo where
  /-- The name of the unit of code. -/
  unit : Value
  /-- The file of the code. -/
  file : Text
  /-- The line that is being run. -/
  line : Int
  /-- The name of the routine; code outside routines has none. -/
  routine : Option Text
  deriving Repr

/-- The name of code outside routines. -/
def moduleCode : Text := "<module>".toList

/-- The name that stands for a unit without one. -/
def unknownUnit : Value := .text ['?']

/-- The routine of a call. -/
def Frame.routine (f : Frame) : Option Text :=
  if f.code = moduleCode then none else some (f.code.afterLast '.')

/-- The description of a call. -/
def Frame.info (f : Frame) : FrameInfo where
  unit := f.unit?.getD unknownUnit
  file := f.file
  line := f.line
  routine := f.routine

namespace FrameInfo

/-- The entry for the routine; a routine without a name has none. -/
def routineEntries (f : FrameInfo) : Entries :=
  match f.routine with
  | some (c :: name) => [(.text "routine_name".toList, .text (c :: name))]
  | _ => []

/-- The description as a dictionary. -/
def entries (f : FrameInfo) : Entries :=
  [(.text "unit_name".toList, f.unit), (.text "source_location".toList, .text f.file),
    (.text "line".toList, .int f.line)] ++ f.routineEntries

end FrameInfo

namespace Trace

/-- The descriptions of up to `depth` calls, after `skip` calls that are left out; negative numbers
count as zero. -/
def collect (stack : List Frame) (depth skip : Int) : List FrameInfo :=
  ((stack.drop skip.toNat).take depth.toNat).map Frame.info

/-- **The number of calls that a trace describes.** -/
theorem length_collect (stack : List Frame) (depth skip : Int) :
    (collect stack depth skip).length = min depth.toNat (stack.length - skip.toNat) := by
  simp [collect]

/-- **A long trace is a short one followed by a trace that skips it.** -/
theorem collect_add (stack : List Frame) (m n s : Nat) :
    collect stack (m + n : Nat) s = collect stack m s ++ collect stack n (s + m : Nat) := by
  simp only [collect, Int.toNat_natCast, List.take_add, List.map_append, List.drop_drop]

/-- A trace as a dictionary with a single entry. -/
def payload (infos : List FrameInfo) : Entries :=
  [(.text "TRACE".toList, .list (infos.map fun f => .dict f.entries))]

end Trace

end Marginalia
