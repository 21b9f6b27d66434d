import Marginalia.Directive.Basic
import Marginalia.Text.Word

/-!
# The expressions of a dump

The payload of a dump is a list of expressions between blanks and commas. An expression may have a
label in front, ended by a colon or an equals sign; otherwise it is its own name. Signs that mark a
container in front of an expression are dropped.

## Main definitions

* `DumpEntry`: a name and an expression
* `DumpEntry.label?`: the label of a token and what follows it
* `DumpEntry.ofToken?`: the entry that a token is
* `DumpEntry.ofPayload`: the entries of a payload

## Main results

* `DumpEntry.expression_ne_nil`: no expression is empty
* `DumpEntry.ofPayload_append`: entries never cross a separator
-/

namespace Marginalia

/-- A name and the expression whose value it names. -/
structure DumpEntry where
  /-- The name. -/
  name : Text
  /-- The expression. -/
  expression : Text
  deriving DecidableEq, Repr

namespace DumpEntry

/-- Whether the character marks a container. -/
def isSigil (c : Char) : Bool := c == '@' || c == '%'

/-- Whether the character ends a label. -/
def endsLabel (c : Char) : Bool := c == ':' || c == '='

/-- The label of a token and what follows it: word characters up to a colon or an equals sign. -/
def label? (token : Text) : Option (Text × Text) :=
  let label := token.takeWhile isWord
  match token.dropWhile isWord with
  | [] => none
  | c :: rest => if endsLabel c && !label.isEmpty then some (label, rest) else none

/-- The entry of a name and an expression; without an expression there is none. -/
def named? (name? : Option Text) (expression : Text) : Option DumpEntry :=
  let bare := expression.dropWhile isSigil
  if bare.isEmpty then none else some ⟨name?.getD bare, bare⟩

/-- The entry that a token is. -/
def ofToken? (token : Text) : Option DumpEntry :=
  match label? token with
  | some (label, rest) => named? (some label) rest
  | none => named? none token

/-- The entries of a payload, in order. -/
def ofPayload (payload : Text) : List DumpEntry :=
  (payload.words Directive.isSeparator).filterMap ofToken?

theorem expression_ne_nil_of_named? {name? : Option Text} {expression : Text} {e : DumpEntry}
    (h : named? name? expression = some e) : e.expression ≠ [] := by
  unfold named? at h
  dsimp only at h
  split at h
  · simp at h
  · next hne =>
    obtain rfl := Option.some.inj h
    simpa using hne

/-- **No expression is empty.** -/
theorem expression_ne_nil {payload : Text} {e : DumpEntry} (h : e ∈ ofPayload payload) :
    e.expression ≠ [] := by
  obtain ⟨token, -, ht⟩ := List.mem_filterMap.1 h
  unfold ofToken? at ht
  split at ht <;> exact expression_ne_nil_of_named? ht

/-- **Entries never cross a separator.** -/
theorem ofPayload_append {c : Char} (h : Directive.isSeparator c = true) (s t : Text) :
    ofPayload (s ++ c :: t) = ofPayload s ++ ofPayload t := by
  simp [ofPayload, Text.words_append_sep h]

end DumpEntry

end Marginalia
