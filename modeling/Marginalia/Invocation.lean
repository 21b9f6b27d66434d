import Marginalia.Directive.Dump
import Marginalia.Render.Shape
import Marginalia.Settings.Config

/-!
# Invocations

What a claimed directive turns into: a call that shows a message or a dump, followed by a call that
shows the calling frames where the tag asks for them, all on one line of source text. Expressions
are copied as they stand; everything else is written as a literal.

## Main definitions

* `Call`: what a directive asks for
* `Invocation`: a call with its destination, format and trace depth
* `Invocation.source`: the line of source text
* `Directive.invocation`: the invocation of a directive under a tag
* `Directive.replacement`: what stands in the place of a directive
-/

namespace Marginalia

/-- What a directive asks for. -/
inductive Call where
  /-- A text is shown. -/
  | message (s : Text)
  /-- Values are shown under names. -/
  | dump (entries : List DumpEntry)
  /-- Code is run, which no call does. -/
  | exec (code : Text)
  deriving DecidableEq, Repr

/-- The kind of directive that asks for a call. -/
def Call.kind : Call → DirectiveKind
  | .message _ => .message
  | .dump _ => .dump
  | .exec _ => .exec

/-- A call with its destination, format and trace depth. -/
structure Invocation where
  /-- What is asked for. -/
  call : Call
  /-- The destination. -/
  target : Value
  /-- The format of dumps and traces. -/
  format : Value
  /-- The number of frames shown after the call. -/
  depth : Int
  deriving Repr

/-- Why an invocation has no source text. -/
inductive InvocationFault where
  /-- Code to run is no call. -/
  | exec
  /-- A destination or a format has no literal. -/
  | literal (e : RenderFault)
  deriving DecidableEq, Repr

namespace InvocationFault

/-- The words for the fault. -/
def message : InvocationFault → Text
  | exec => "no invocation for exec directives".toList
  | literal e => e.message

/-- The name of the class of errors that the fault belongs to. -/
def className : InvocationFault → Text
  | exec => "ValueError".toList
  | literal e => e.className

end InvocationFault

namespace Invocation

/-- The word that a call of the library starts with, so that no line for an import is needed. -/
def importWord : Text := "__import__".toList

/-- The name of the library. -/
def libraryName : Text := "debugcomments".toList

/-- What a call of the library starts with. -/
def library : Text := importWord ++ Text.enclosed ['('] [')', '.'] (quote libraryName)

/-- A call of a function of the library with spelled arguments. -/
def callText (function : Text) (arguments : List Text) : Text :=
  library ++ function ++ ['('] ++ Text.joined commaSpace arguments ++ [')']

/-- The entries of a dump as a dictionary of expressions. -/
def tableText (entries : List DumpEntry) : Text :=
  openBrace
    ++ Text.joined commaSpace (entries.map fun e => quote e.name ++ colonSpace ++ e.expression)
    ++ closeBrace

/-- The names of the functions that calls use. -/
def messageFunction : Text := "debug_msg".toList

@[inherit_doc messageFunction]
def dumpFunction : Text := "debug_dump".toList

@[inherit_doc messageFunction]
def traceFunction : Text := "debug_trace".toList

/-- The call without its trace, from the literals of destination and format. -/
def callSource (target : Except RenderFault Text) (format : Except RenderFault Text) :
    Call → Except InvocationFault Text
  | .exec _ => .error .exec
  | .message s =>
    match target with
    | .error e => .error (.literal e)
    | .ok t => .ok (callText messageFunction [t, quote s])
  | .dump entries =>
    match target, format with
    | .error e, _ => .error (.literal e)
    | .ok _, .error e => .error (.literal e)
    | .ok t, .ok f => .ok (callText dumpFunction [t, f, tableText entries])

/-- The call that shows calling frames. -/
def traceSource (target : Except RenderFault Text) (depth : Int)
    (format : Except RenderFault Text) : Except InvocationFault Text :=
  match target, spellInt depth, format with
  | .error e, _, _ => .error (.literal e)
  | .ok _, .error e, _ => .error (.literal e)
  | .ok _, .ok _, .error e => .error (.literal e)
  | .ok t, .ok d, .ok f => .ok (callText traceFunction [t, d, f])

/-- What stands between two calls on a line. -/
def callSeparator : Text := [';', ' ']

/-- The line of source text of an invocation. -/
def source (i : Invocation) : Except InvocationFault Text :=
  match callSource i.target.literal i.format.literal i.call with
  | .error e => .error e
  | .ok call =>
    if i.depth ≤ 0 then .ok call
    else
      match traceSource i.target.literal i.depth i.format.literal with
      | .error e => .error e
      | .ok trace => .ok (call ++ callSeparator ++ trace)

end Invocation

namespace Directive

/-- What the directive asks for. -/
def call (d : Directive) : Call :=
  match d.kind with
  | .message => .message d.payload
  | .dump => .dump (DumpEntry.ofPayload d.payload)
  | .exec => .exec d.payload

/-- The invocation of a directive under a tag. -/
def invocation (d : Directive) (tag : Tag) : Invocation where
  call := d.call
  target := tag.target
  format := tag.format
  depth := tag.depth

/-- What stands in the place of a directive, its line end aside. Code that is itself a directive
vanishes like code that must not be run. -/
def replacement (d : Directive) (tag : Tag) (execEnabled : Bool) : Except InvocationFault Text :=
  match d.kind with
  | .exec =>
    if execEnabled && (ofLine? d.payload).isNone then .ok (d.indent ++ d.payload) else .ok []
  | _ => (d.invocation tag).source.map (d.indent ++ ·)

end Directive

end Marginalia
