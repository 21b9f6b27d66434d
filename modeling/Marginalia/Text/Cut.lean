import Marginalia.Text.Basic

/-!
# Cutting a text

## Main definitions

* `Text.glue`: a character in front of the first piece
* `Text.cutWhere`: the pieces of a text, cut between neighbours that a test separates
* `Text.splitAt`: the parts between the occurrences of a character
* `Text.afterLast`: the part after the last of them
* `Text.anyPair`: whether some two neighbours are in a relation

## Main results

* `Text.cutWhere_flatten`: cutting loses nothing
-/

namespace Marginalia

namespace Text

/-- A character in front of the first piece. -/
def glue (c : Char) : List Text → List Text
  | [] => [[c]]
  | piece :: rest => (c :: piece) :: rest

@[simp] theorem glue_flatten (c : Char) (pieces : List Text) :
    (glue c pieces).flatten = c :: pieces.flatten := by
  cases pieces <;> simp [glue]

/-- The pieces of a text, cut between every two neighbours that `cut` separates. -/
def cutWhere (cut : Char → Char → Bool) : Text → List Text
  | [] => []
  | c :: r =>
    match r with
    | [] => [[c]]
    | d :: _ => if cut c d then [c] :: cutWhere cut r else glue c (cutWhere cut r)

/-- **Cutting loses nothing.** -/
@[simp] theorem cutWhere_flatten (cut : Char → Char → Bool) (s : Text) :
    (cutWhere cut s).flatten = s := by
  fun_induction cutWhere cut s <;> simp_all

/-- The parts between the occurrences of a character. -/
def splitAt (sep : Char) : Text → List Text
  | [] => [[]]
  | c :: r => if c = sep then [] :: splitAt sep r else glue c (splitAt sep r)

/-- The part after the last occurrence of a character; the whole text where it does not occur. -/
def afterLast (sep : Char) (s : Text) : Text := (s.reverse.takeWhile (· != sep)).reverse

/-- Whether some two neighbours are in the relation. -/
def anyPair (rel : Char → Char → Bool) : Text → Bool
  | [] => false
  | c :: r =>
    match r with
    | [] => false
    | d :: _ => rel c d || anyPair rel r

end Text

end Marginalia
