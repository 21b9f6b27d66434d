import Marginalia.Program.Token
import Marginalia.Text.Cut

/-!
# The lines of a program

A line that says something has tokens and stands at a depth, which is the number of lines above it
that it is indented under. While a bracket is open, the following lines belong to the line that
opens it. Blank lines and comments say nothing.

## Main definitions

* `Program.Indent`: how far a line is indented
* `Program.Line`: a line that says something
* `Program.lines`: the lines of a text
-/

namespace Marginalia

namespace Program

/-- How far a line is indented, with tabs that reach to every eighth column and with tabs as wide
as a space. -/
structure Indent where
  /-- The column with wide tabs. -/
  column : Nat
  /-- The column with narrow tabs. -/
  narrow : Nat
  deriving DecidableEq, Repr

namespace Indent

/-- No indentation. -/
def none : Indent := ⟨0, 0⟩

/-- The indentation after one more blank. A form feed starts from the margin. -/
def step (i : Indent) (c : Char) : Indent :=
  if c = ' ' then ⟨i.column + 1, i.narrow + 1⟩
  else if c = '\t' then ⟨(i.column / 8 + 1) * 8, i.narrow + 1⟩
  else none

/-- The indentation of a line. -/
def ofLine (raw : Text) : Indent := (raw.takeWhile isGap).foldl step none

/-- The indentations in force after a line, from the inmost to the outmost; the margin is left
out. -/
def settle (above : List Indent) (i : Indent) : Except SyntaxCause (List Indent) :=
  let top := above.head?.getD none
  if top.column < i.column then
    if i.narrow ≤ top.narrow then .error .mixedTabs else .ok (i :: above)
  else
    let above := above.dropWhile fun j => i.column < j.column
    let top := above.head?.getD none
    if i.column ≠ top.column then .error .strayDedent
    else if i.narrow ≠ top.narrow then .error .mixedTabs
    else .ok above

end Indent

/-- A line that says something. -/
structure Line where
  /-- Its number. -/
  number : Nat
  /-- Its depth. -/
  depth : Nat
  /-- Its tokens. -/
  tokens : List Token
  deriving Repr

/-- What has been read of the lines above. -/
structure Reading where
  /-- The indentations in force. -/
  above : List Indent
  /-- The open brackets. -/
  opened : Nesting
  /-- The line that opened the first of them. -/
  begun : Option Line

namespace Reading

/-- Nothing has been read. -/
def start : Reading := ⟨[], [], none⟩

/-- What has been read after one more line, and the line that it ends. -/
def step (r : Reading) (number : Nat) (raw : Text) :
    Except SyntaxCause (Reading × Option Line) :=
  match r.begun, tokens number r.opened raw with
  | _, .ok ([], _) => .ok (r, none)
  | some _, .error e => .error e
  | some line, .ok (ts, opened) =>
    let line := { line with tokens := line.tokens ++ ts }
    .ok (if opened.isEmpty then ({ r with opened, begun := none }, some line)
      else ({ r with opened, begun := some line }, none))
  | none, said =>
    match Indent.settle r.above (Indent.ofLine raw), said with
    | .error e, _ => .error e
    | .ok _, .error e => .error e
    | .ok above, .ok (ts, opened) =>
      let line : Line := ⟨number, above.length, ts⟩
      .ok (if opened.isEmpty then (⟨above, opened, none⟩, some line)
        else (⟨above, opened, some line⟩, none))

end Reading

/-- The lines that say something among the lines of a text, numbered from `number` on. -/
def linesFrom (number : Nat) (r : Reading) : List Text → Except SyntaxFault (List Line)
  | [] =>
    match r.opened with
    | [] => .ok []
    | (c, n) :: _ => .error ⟨n, .neverClosed c⟩
  | raw :: rest =>
    match r.step number raw with
    | .error cause => .error ⟨number, cause⟩
    | .ok (r, none) => linesFrom (number + 1) r rest
    | .ok (r, some line) => (linesFrom (number + 1) r rest).map (line :: ·)

/-- The lines of a text that say something. Lines count from one. -/
def lines (s : Text) : Except SyntaxFault (List Line) :=
  linesFrom 1 .start (s.unixLines.splitAt '\n')

end Program

end Marginalia
