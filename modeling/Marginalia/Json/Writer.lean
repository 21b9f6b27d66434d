import Marginalia.Render.Shape

/-!
# JSON text

A dictionary as indented JSON. What JSON has no form for is written as the string of its one-line
literal; a key has to be a text, a number, a truth value or none, and no container may stand
inside itself.

## Main definitions

* `Json.quote`: a JSON string; only the quote, the backslash and control characters are escaped
* `Json.write`: an expanded value at a depth
* `Json.render`: a dictionary
-/

namespace Marginalia

namespace Json

/-- A character inside a JSON string. -/
def escape (c : Char) : Text :=
  if c = Quoted.double ∨ c = Quoted.backslash then [Quoted.backslash, c]
  else if c = '\n' then [Quoted.backslash, 'n']
  else if c = '\r' then [Quoted.backslash, 'r']
  else if c = '\t' then [Quoted.backslash, 't']
  else if c.toNat = 0x0c then [Quoted.backslash, 'f']
  else if c.toNat = 0x08 then [Quoted.backslash, 'b']
  else if c.toNat < 0x20 then Quoted.codeEscape 'u' 4 c.toNat
  else [c]

/-- A JSON string. -/
def quote (s : Text) : Text := Quoted.double :: s.flatMap escape ++ [Quoted.double]

/-- The JSON text of a float; the numbers that JSON lacks have names. -/
def floatText : Binary64 → Text
  | .nan => "NaN".toList
  | .infinite false => "Infinity".toList
  | .infinite true => "-Infinity".toList
  | x => x.text

/-- The word for a truth value. -/
def boolText (b : Bool) : Text := if b then "true".toList else "false".toList

/-- The indentation of one level. -/
def indentWidth : Nat := 3

/-- A new line at a depth. -/
def newLine (depth : Nat) : Text := '\n' :: Text.spaces (indentWidth * depth)

/-- The parts between brackets, one a line. -/
def block (left right : Char) (depth : Nat) (parts : List Text) : Text :=
  if parts.isEmpty then [left, right]
  else
    left :: newLine (depth + 1) ++ Text.joined (',' :: newLine (depth + 1)) parts
      ++ newLine depth ++ [right]

/-- The text of a key. -/
def keyText : Value → Except RenderFault Text
  | .text s => .ok s
  | .float x => .ok (floatText x)
  | .bool b => .ok (boolText b)
  | .none => .ok "null".toList
  | .int i => spellInt i
  | v => .error (.keyClass v.typeName)

mutual

/-- The JSON text of an expanded value at a depth. -/
def write (depth : Nat) : Value → Except RenderFault Text
  | .none => .ok "null".toList
  | .bool b => .ok (boolText b)
  | .int i => spellInt i
  | .float x => .ok (floatText x)
  | .text s => .ok (quote s)
  | .list items => (writeAll (depth + 1) items).map (block '[' ']' depth)
  | .tuple items => (writeAll (depth + 1) items).map (block '[' ']' depth)
  | .dict entries => (writeEntries (depth + 1) entries).map (block '\x7b' '\x7d' depth)
  | .shared _ _ => .error .cycle
  | .bytes bs => .ok (quote (Quoted.writeBytes bs))
  | .set items => (Value.literal (.set items)).map quote
  | .foreign o => o.spell.map quote

/-- The JSON texts of values. -/
def writeAll (depth : Nat) : List Value → Except RenderFault (List Text)
  | [] => .ok []
  | v :: vs =>
    match write depth v with
    | .error e => .error e
    | .ok s => (writeAll depth vs).map (s :: ·)

/-- The JSON texts of entries. -/
def writeEntries (depth : Nat) : Entries → Except RenderFault (List Text)
  | [] => .ok []
  | (k, v) :: rest =>
    match keyText k with
    | .error e => .error e
    | .ok key =>
      match write depth v with
      | .error e => .error e
      | .ok s => (writeEntries depth rest).map ((quote key ++ colonSpace ++ s) :: ·)

end

/-- The JSON text of a dictionary. -/
def render (σ : Store) (entries : Entries) : Except RenderFault Text :=
  write 0 (σ.expand (.dict entries))

end Json

end Marginalia
