import Marginalia.Text.Blank

/-!
# Directives

A directive is a line that holds, after blanks only, two number signs and a list of tags in
brackets. What follows the closing bracket at once tells its kind: an equals sign starts a dump,
a tilde code to run, anything else a message.

## Main definitions

* `Directive`: a directive and its kind
* `Directive.tagsOf`: the tags that a list names
* `Directive.ofLine?`: the directive that a line is

## Main results

* `Directive.tags_ne_nil`: a directive names a tag
-/

namespace Marginalia

/-- The kinds of directives. -/
inductive DirectiveKind where
  /-- Named expressions whose values are shown. -/
  | dump
  /-- Code that is run in place. -/
  | exec
  /-- A text that is shown. -/
  | message
  deriving DecidableEq, Repr

/-- A directive. -/
structure Directive where
  /-- The blanks in front of it. -/
  indent : Text
  /-- The tags it names, in order. -/
  tags : List Text
  /-- Its kind. -/
  kind : DirectiveKind
  /-- What follows, without blanks at the ends. -/
  payload : Text
  deriving DecidableEq, Repr

namespace Directive

/-- Whether the directive names the tag. -/
def names (d : Directive) (tag : Text) : Bool := d.tags.contains tag

/-- Whether the character separates tags or expressions. -/
def isSeparator (c : Char) : Bool := isBlank c || c == ','

/-- Whether the character may stand between the brackets. -/
def inBrackets (c : Char) : Bool := c != '[' && c != ']' && !isLineEnd c

/-- The tags that a list names. -/
def tagsOf (list : Text) : List Text := list.words isSeparator

/-- What a directive starts with, up to its tags. -/
def marker : Text := ['#', '#', '[']

/-- The kind of a directive and its payload, from what follows the brackets. -/
def kindOf : Text → DirectiveKind × Text
  | [] => (.message, [])
  | c :: r => if c = '=' then (.dump, r) else if c = '~' then (.exec, r) else (.message, c :: r)

/-- The directive of its parts; without a tag there is none. -/
def ofParts? (indent list rest : Text) : Option Directive :=
  let tags := tagsOf list
  if tags.isEmpty then none
  else some ⟨indent, tags, (kindOf rest).1, (kindOf rest).2.strip⟩

/-- Whether nothing stands here but at most one line feed. -/
def endsHere (s : Text) : Bool := s.isEmpty || s == ['\n']

/-- The directive that a line is, if it is one. A line feed may end the line. -/
def ofLine? (line : Text) : Option Directive :=
  match Text.after? marker (line.dropWhile isInlineBlank) with
  | none => none
  | some body =>
    match body.dropWhile inBrackets with
    | ']' :: tail =>
      if endsHere (tail.dropWhile (!isLineEnd ·)) then
        ofParts? (line.takeWhile isInlineBlank) (body.takeWhile inBrackets)
          (tail.takeWhile (!isLineEnd ·))
      else none
    | _ => none

/-- A directive that its parts form names a tag. -/
theorem tags_ne_nil_of_ofParts? {indent list rest : Text} {d : Directive}
    (h : ofParts? indent list rest = some d) : d.tags ≠ [] := by
  unfold ofParts? at h
  dsimp only at h
  split at h
  · simp at h
  · next hne =>
    obtain rfl := Option.some.inj h
    simpa using hne

/-- **A directive names a tag.** -/
theorem tags_ne_nil {line : Text} {d : Directive} (h : ofLine? line = some d) : d.tags ≠ [] := by
  unfold ofLine? at h
  split at h
  · simp at h
  · split at h
    · split at h
      · exact tags_ne_nil_of_ofParts? h
      · simp at h
    · simp at h

end Directive

end Marginalia
