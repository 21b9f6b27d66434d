/-!
# Text as a list of characters

Everything the library reads or writes is a list of characters, so that a reader is a recursion on
the rest of its input and a writer a concatenation. Characters are Unicode scalar values: a text
holds no lone surrogates, and what is said about all texts is not said about strings with any.

## Main definitions

* `Text`: a list of characters
* `Text.dropEndWhile`, `Text.trim`: the text without the characters of a class at its ends
* `Text.words`: the maximal runs of characters outside a class of separators
* `Text.joined`: parts with a separator between neighbours
* `Text.spaces`: an indentation

## Main results

* `Text.words_append_sep`: words never cross a separator
* `Text.mem_words`: a word is not empty and holds no separator
-/

namespace Marginalia

/-- A text is the list of its characters. -/
abbrev Text := List Char

namespace Text

/-- Whether all characters of a text have a property is decided along the text, and not along all
characters that there are. -/
instance (priority := 1100) decidableForallMem (s : Text) (p : Char → Prop) [DecidablePred p] :
    Decidable (∀ c ∈ s, p c) :=
  List.decidableBAll p s

variable {sep : Char → Bool}

/-- The text without the characters of class `p` at its end. -/
def dropEndWhile (p : Char → Bool) : Text → Text
  | [] => []
  | c :: r =>
    match dropEndWhile p r with
    | [] => if p c then [] else [c]
    | kept => c :: kept

/-- The text without the characters of class `p` at either end. -/
def trim (p : Char → Bool) (s : Text) : Text :=
  dropEndWhile p (s.dropWhile p)

@[simp] theorem dropEndWhile_nil (p : Char → Bool) : dropEndWhile p [] = [] := rfl

/-- A text without its end goes on with that end. -/
theorem dropEndWhile_append_drop (p : Char → Bool) (s : Text) :
    s.dropEndWhile p ++ s.drop (s.dropEndWhile p).length = s := by
  fun_induction dropEndWhile p s <;> simp_all

@[simp] theorem trim_nil (p : Char → Bool) : trim p [] = [] := rfl

/-- Words with the unfinished first word at the head. -/
def wordsFrom (sep : Char → Bool) : Text → Text × List Text
  | [] => ([], [])
  | c :: r =>
    let (word, rest) := wordsFrom sep r
    if sep c then ([], if word.isEmpty then rest else word :: rest) else (c :: word, rest)

/-- The maximal runs of characters that are no separators, in order. -/
def words (sep : Char → Bool) (s : Text) : List Text :=
  let (word, rest) := wordsFrom sep s
  if word.isEmpty then rest else word :: rest

@[simp] theorem words_nil (sep : Char → Bool) : words sep [] = [] := rfl

/-- A separator ends the first word. -/
theorem wordsFrom_sep {c : Char} (h : sep c = true) (r : Text) :
    wordsFrom sep (c :: r) = ([], words sep r) := by
  simp [wordsFrom, words, h]

/-- Separators in front of a text form no word. -/
@[simp] theorem words_cons_sep {c : Char} (h : sep c = true) (r : Text) :
    words sep (c :: r) = words sep r := by
  simp [words, wordsFrom, h]

/-- The first word of what stands before a separator, and the words on both sides of it. -/
theorem wordsFrom_append_sep {c : Char} (h : sep c = true) (s r : Text) :
    wordsFrom sep (s ++ c :: r) =
      ((wordsFrom sep s).1, (wordsFrom sep s).2 ++ words sep r) := by
  induction s with
  | nil => simp [wordsFrom, words, h]
  | cons d s ih =>
    by_cases hd : sep d = true
    · by_cases hw : (wordsFrom sep s).1.isEmpty <;> simp_all [wordsFrom]
    · simp_all [wordsFrom]

/-- **Words never cross a separator.** -/
theorem words_append_sep {c : Char} (h : sep c = true) (s r : Text) :
    words sep (s ++ c :: r) = words sep s ++ words sep r := by
  by_cases hw : (wordsFrom sep s).1.isEmpty <;> simp [words, wordsFrom_append_sep h, hw]

/-- Every character of the unfinished word is outside the separators. -/
theorem wordsFrom_fst (s : Text) : ∀ c ∈ (wordsFrom sep s).1, sep c = false := by
  induction s with
  | nil => simp [wordsFrom]
  | cons d s ih =>
    by_cases hd : sep d = true
    · simp [wordsFrom, hd]
    · simpa [wordsFrom, hd] using ih

/-- Every finished word is a non-empty run without separators. -/
theorem wordsFrom_snd (s : Text) :
    ∀ w ∈ (wordsFrom sep s).2, w ≠ [] ∧ ∀ c ∈ w, sep c = false := by
  induction s with
  | nil => simp [wordsFrom]
  | cons d s ih =>
    by_cases hd : sep d = true
    · by_cases hw : (wordsFrom sep s).1 = []
      · simpa [wordsFrom, hd, hw] using ih
      · simpa [wordsFrom, hd, hw] using ⟨wordsFrom_fst s, ih⟩
    · simpa [wordsFrom, hd] using ih

/-- **A word is not empty and holds no separator.** -/
theorem mem_words {s w : Text} (h : w ∈ words sep s) : w ≠ [] ∧ ∀ c ∈ w, sep c = false := by
  by_cases hw : (wordsFrom sep s).1 = []
  · exact wordsFrom_snd s w (by simpa [words, hw] using h)
  · rcases (show w = (wordsFrom sep s).1 ∨ w ∈ (wordsFrom sep s).2 by
      simpa [words, hw] using h) with rfl | h
    · exact ⟨hw, wordsFrom_fst s⟩
    · exact wordsFrom_snd s w h

/-- The parts one after another with `mid` between neighbours. -/
def joined (mid : Text) : List Text → Text
  | [] => []
  | [part] => part
  | part :: rest => part ++ mid ++ joined mid rest

@[simp] theorem joined_nil (mid : Text) : joined mid [] = [] := rfl

@[simp] theorem joined_singleton (mid part : Text) : joined mid [part] = part := rfl

@[simp] theorem joined_cons_cons (mid part next : Text) (rest : List Text) :
    joined mid (part :: next :: rest) = part ++ mid ++ joined mid (next :: rest) := rfl

/-- The text between two texts. -/
def enclosed (left right s : Text) : Text := left ++ s ++ right

/-- A run of `n` spaces. -/
def spaces (n : Nat) : Text := List.replicate n ' '

@[simp] theorem length_spaces (n : Nat) : (spaces n).length = n := by simp [spaces]

/-- What follows `lead` in the text, if the text starts with it. -/
def after? : Text → Text → Option Text
  | [], s => some s
  | _ :: _, [] => none
  | c :: lead, d :: s => if c = d then after? lead s else none

/-- A text starts with `lead` exactly when it is `lead` and a rest. -/
theorem after?_eq_some_iff {lead s r : Text} : after? lead s = some r ↔ s = lead ++ r := by
  induction lead generalizing s with
  | nil => simp [after?]
  | cons c lead ih =>
    cases s with
    | nil => simp [after?]
    | cons d s =>
      by_cases h : c = d
      · simp [after?, h, ih]
      · simp [after?, h, Ne.symm h]

/-- Whether the text starts with `lead`. -/
def startsWith (lead s : Text) : Bool := (after? lead s).isSome

end Text

end Marginalia
