import Marginalia.Render.Shape
import Marginalia.Text.Cut

/-!
# Literals laid out in lines

A shape is written on one line where it fits into the width, and otherwise over several: brackets
hold one item a line, and a quoted text is cut into adjacent literals, at line ends first and then
at blanks. What follows the shape on its last line takes room too: its length is reserved.

## Main definitions

* `Shape.layout`: a shape in lines
* `Data.render`: the literal of a dictionary, in lines

## Main results

* `cutLines_flatten`, `cutWords_flatten`, `pack_flatten`: cutting a text loses nothing
-/

namespace Marginalia

namespace Layout

/-- The width of a line. -/
def width : Nat := 80

/-- The indentation of what stands inside brackets. -/
def step : Nat := 2

/-- Whether a text of some length fits between an indentation and what follows it. -/
def fits (length indent reserve : Nat) : Bool := length + indent + reserve ≤ width

/-- Whether the character ends a line of a text that is to be cut. -/
def endsRow (c : Char) : Bool :=
  [0xa, 0xb, 0xc, 0xd, 0x1c, 0x1d, 0x1e, 0x85, 0x2028, 0x2029].contains c.toNat

/-- The lines of a text, each with what ends it. -/
def cutLines : Text → List Text
  | [] => []
  | '\r' :: '\n' :: r => ['\r', '\n'] :: cutLines r
  | c :: r => if endsRow c then [c] :: cutLines r else Text.glue c (cutLines r)

/-- **Cutting a text into lines loses nothing.** -/
@[simp] theorem cutLines_flatten (s : Text) : (cutLines s).flatten = s := by
  fun_induction cutLines s <;> simp_all

/-- The words of a text, each with the blanks after it. -/
def cutWords (s : Text) : List Text := s.cutWhere fun c d => isBlank c && !isBlank d

/-- **Cutting a text into words loses nothing.** -/
@[simp] theorem cutWords_flatten (s : Text) : (cutWords s).flatten = s := Text.cutWhere_flatten _ s

/-- A piece, unless it is empty. -/
def solid {α : Type} (piece : List α) : List (List α) := if piece.isEmpty then [] else [piece]

@[simp] theorem solid_flatten {α : Type} (piece : List α) : (solid piece).flatten = piece := by
  cases piece <;> simp [solid]

/-- The parts gathered into pieces, as many into each as `ok` allows; `ok` is told whether the part
just added is the last one. -/
def pack {α : Type} (ok : Bool → List α → Bool) : List α → List (List α) → List (List α)
  | piece, [] => solid piece
  | piece, part :: rest =>
    if ok rest.isEmpty (piece ++ part) then pack ok (piece ++ part) rest
    else solid piece ++ pack ok part rest

/-- **Gathering parts loses nothing.** -/
@[simp] theorem pack_flatten {α : Type} (ok : Bool → List α → Bool) (piece : List α)
    (parts : List (List α)) : (pack ok piece parts).flatten = piece ++ parts.flatten := by
  induction parts generalizing piece with
  | nil => simp [pack]
  | cons part rest ih => rw [pack]; split <;> simp [ih]

/-- Whether the literal of a piece fits; only what ends the text minds what follows it. -/
def pieceFits (indent reserve : Nat) (last final : Bool) (piece : Text) : Bool :=
  fits (quote piece).length indent (if last && final then reserve else 0)

/-- The pieces of one line of a text; `last` tells whether it is the last line. -/
def linePieces (indent reserve : Nat) (last : Bool) (line : Text) : List Text :=
  if pieceFits indent reserve last true line then [line]
  else pack (pieceFits indent reserve last) [] (cutWords line)

/-- The pieces of the lines of a text. -/
def linesPieces (indent reserve : Nat) : List Text → List Text
  | [] => []
  | line :: rest =>
    linePieces indent reserve rest.isEmpty line ++ linesPieces indent reserve rest

/-- The pieces that a text too long for its line is cut into. -/
def textPieces (indent reserve : Nat) (s : Text) : List Text :=
  linesPieces indent reserve (cutLines s)

theorem linePieces_flatten (indent reserve : Nat) (last : Bool) (line : Text) :
    (linePieces indent reserve last line).flatten = line := by
  unfold linePieces
  split <;> simp

theorem linesPieces_flatten (indent reserve : Nat) (lines : List Text) :
    (linesPieces indent reserve lines).flatten = lines.flatten := by
  induction lines with
  | nil => rfl
  | cons line rest ih => simp [linesPieces, linePieces_flatten, ih]

/-- **The pieces of a text make up the text.** -/
theorem textPieces_flatten (indent reserve : Nat) (s : Text) :
    (textPieces indent reserve s).flatten = s := by
  simp [textPieces, linesPieces_flatten]

/-- The bytes in groups of four. -/
def cutFours : Bytes → List Bytes
  | a :: b :: c :: d :: r => [a, b, c, d] :: cutFours r
  | [] => []
  | short => [short]

/-- The pieces that a long byte string is cut into. Only a last group of fewer than four bytes
minds what follows it. -/
def bytesPieces (indent reserve : Nat) (bs : Bytes) : List Bytes :=
  if bs.length ≤ 4 then [bs]
  else
    let short := bs.length % 4 != 0
    pack (fun final piece =>
      fits (Quoted.writeBytes piece).length indent (if final && short then reserve else 0))
      [] (cutFours bs)

/-- A new line with an indentation. -/
def newLine (indent : Nat) : Text := '\n' :: Text.spaces indent

end Layout

namespace Shape

open Layout

mutual

/-- The shape at an indentation, with room for `reserve` characters after it. -/
def layout (indent reserve : Nat) : Shape → Text
  | atom s => s
  | text s =>
    if fits (quote s).length indent reserve || s.isEmpty then quote s
    else Text.joined (newLine indent) ((textPieces indent reserve s).map quote)
  | bytes bs =>
    if fits (Quoted.writeBytes bs).length indent reserve then Quoted.writeBytes bs
    else Text.joined (newLine indent) ((bytesPieces indent reserve bs).map Quoted.writeBytes)
  | group left right items =>
    let line := left ++ Text.joined commaSpace (oneLines items) ++ right
    if fits line.length indent reserve then line
    else left ++ [' '] ++ layoutItems (indent + step) (reserve + right.length) items ++ right
  | table entries =>
    let line := openBrace ++ Text.joined commaSpace (rowLines entries) ++ closeBrace
    if fits line.length indent reserve then line
    else openBrace ++ [' '] ++ layoutRows (indent + step) (reserve + 1) entries ++ closeBrace

/-- Items one a line, with room after the last one. -/
def layoutItems (indent reserve : Nat) : List Shape → Text
  | [] => []
  | x :: rest =>
    if rest.isEmpty then layout indent reserve x
    else layout indent 1 x ++ [','] ++ newLine indent ++ layoutItems indent reserve rest

/-- Entries one a line, each value indented by the length of its key. -/
def layoutRows (indent reserve : Nat) : List (Text × Shape) → Text
  | [] => []
  | (key, x) :: rest =>
    let column := indent + key.length + 2
    if rest.isEmpty then key ++ colonSpace ++ layout column reserve x
    else key ++ colonSpace ++ layout column 1 x ++ [','] ++ newLine indent
      ++ layoutRows indent reserve rest

end

end Shape

namespace Data

/-- The words that stand for an enclosing container; its number is not shown. -/
def recursionMark (kind : Kind) (_ : Nat) : Text :=
  "<Recursion on ".toList ++ kind.name ++ " with id=0>".toList

/-- The literal of a dictionary, in lines. -/
def render (σ : Store) (entries : Entries) : Except RenderFault Text :=
  ((σ.expand (.dict entries)).shape recursionMark).map (Shape.layout 0 0)

end Data

end Marginalia
