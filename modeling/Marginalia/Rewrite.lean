import Marginalia.Invocation
import Marginalia.Notice

/-!
# Rewriting a text

A text is cut after every line feed. Tag by tag, in order of priority, every directive that names
the tag and has not been claimed before is replaced; all other lines stay as they are, and every
line keeps what ends it.

## Main definitions

* `Rewrite.pieces`: the lines of a text with what ends them
* `Rewrite.claim`: the lines after one tag
* `Rewrite.rewrite`: the text after all tags, and the notices on the way

## Main results

* `Rewrite.pieces_flatten`: cutting loses nothing
* `Rewrite.body_append_terminator`: a line is its body and what ends it
* `Rewrite.rewrite_nil`: without tags a text stays as it is
-/

namespace Marginalia

namespace Rewrite

/-- The lines of a text, each with the line feed that ends it. -/
def pieces : Text → List Text
  | [] => []
  | c :: r =>
    if c = '\n' then [c] :: pieces r
    else
      match pieces r with
      | [] => [[c]]
      | line :: rest => (c :: line) :: rest

/-- **Cutting a text into lines loses nothing.** -/
@[simp] theorem pieces_flatten (s : Text) : (pieces s).flatten = s := by
  fun_induction pieces s <;> simp_all

/-- A line without the carriage returns and line feeds at its end. -/
def body (piece : Text) : Text := piece.dropEndWhile isLineEnd

/-- The carriage returns and line feeds at the end of a line. -/
def terminator (piece : Text) : Text := piece.drop (body piece).length

/-- **A line is its body and what ends it.** -/
theorem body_append_terminator (piece : Text) : body piece ++ terminator piece = piece :=
  Text.dropEndWhile_append_drop isLineEnd piece

/-- A line of a text that is being rewritten. -/
inductive Line where
  /-- No directive, or one that a tag has claimed. -/
  | settled (s : Text)
  /-- A directive that no tag has claimed yet. -/
  | pending (piece : Text) (d : Directive)
  deriving Repr

namespace Line

/-- The line that a piece of text is. -/
def ofPiece (piece : Text) : Line :=
  match Directive.ofLine? (body piece) with
  | none => .settled piece
  | some d => .pending piece d

/-- The text of a line. -/
def text : Line → Text
  | settled s => s
  | pending piece _ => piece

@[simp] theorem text_ofPiece (piece : Text) : (ofPiece piece).text = piece := by
  unfold ofPiece
  split <;> rfl

end Line

/-- The lines after one tag, and the number of directives it claimed. -/
def claim (tag : Tag) (execEnabled : Bool) : List Line → Except InvocationFault (List Line × Nat)
  | [] => .ok ([], 0)
  | .settled s :: rest =>
    (claim tag execEnabled rest).map fun (lines, n) => (.settled s :: lines, n)
  | .pending piece d :: rest =>
    if d.names tag.name then
      match d.replacement tag execEnabled with
      | .error e => .error e
      | .ok s =>
        (claim tag execEnabled rest).map fun (lines, n) =>
          (.settled (s ++ terminator piece) :: lines, n + 1)
    else (claim tag execEnabled rest).map fun (lines, n) => (.pending piece d :: lines, n)

/-- The notice that a tag claimed directives; a tag without any gives none. -/
def claimNotices (tag : Tag) (count : Nat) : List Notice :=
  if count = 0 then [] else [.claimed tag.name count]

/-- The lines after some tags, and the notices on the way. -/
def claimAll (execEnabled : Bool) :
    List Tag → List Line → List Notice × Except InvocationFault (List Line)
  | [], lines => ([], .ok lines)
  | tag :: tags, lines =>
    match claim tag execEnabled lines with
    | .error e => ([], .error e)
    | .ok (lines, count) =>
      let (notices, result) := claimAll execEnabled tags lines
      (claimNotices tag count ++ notices, result)

/-- The text of some lines. -/
def textOf (lines : List Line) : Text := (lines.map Line.text).flatten

/-- The text after all tags, and the notices on the way. -/
def rewrite (s : Text) (tags : List Tag) (execEnabled : Bool) :
    List Notice × Except InvocationFault Text :=
  let (notices, result) := claimAll execEnabled tags ((pieces s).map Line.ofPiece)
  (notices, result.map textOf)

@[simp] theorem textOf_ofPiece (ps : List Text) : textOf (ps.map Line.ofPiece) = ps.flatten := by
  simp [textOf, Function.comp_def]

/-- **Without tags a text stays as it is.** -/
theorem rewrite_nil (s : Text) (execEnabled : Bool) : rewrite s [] execEnabled = ([], .ok s) := by
  simp [rewrite, claimAll, Except.map]

end Rewrite

end Marginalia
