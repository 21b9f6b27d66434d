import Marginalia.Json.Token

/-!
# Reading JSON

The reader takes one token after another. It remembers the arrays and objects that are open and
what may come next, and complains at the first token that may not. Of two members with one key
the later value and the earlier place win.

## Main definitions

* `Json.Frame`: an array or object that is open
* `Json.Stage`: what may come next
* `Json.step`: the reader after one more token
* `Json.read`: the value of a text
* `Json.ReadFault.message`: the words for a fault, with line and column

## Main results

* `Json.runFrom_append`: reading goes token by token
-/

namespace Marginalia

namespace Json

/-- An array or an object that is open. -/
inductive Frame where
  /-- An array with the items before the one being read. -/
  | array (items : List Value)
  /-- An object with the entries before the one being read, and the key of that one. -/
  | member (entries : Entries) (key : Text)
  deriving Repr

/-- What may come next. -/
inductive Stage where
  /-- A value. -/
  | value
  /-- A value, or the end of an array. -/
  | firstItem
  /-- A key, or the end of an object. -/
  | firstKey
  /-- A key that follows these entries. -/
  | key (entries : Entries)
  /-- The colon after a key that follows these entries. -/
  | colon (entries : Entries) (key : Text)
  /-- What may follow a value. -/
  | after (v : Value)
  deriving Repr

/-- A reader between two tokens: what is open, innermost first, and what may come next. -/
structure Reader where
  /-- The open arrays and objects. -/
  frames : List Frame
  /-- What may come next. -/
  stage : Stage
  deriving Repr

/-- The reader before the first token. -/
def Reader.start : Reader := ⟨[], .value⟩

/-- The complaint about a token that may not come next. -/
def Reader.complaint (r : Reader) : Complaint :=
  match r.stage with
  | .value => .value
  | .firstItem => .value
  | .firstKey => .key
  | .key _ => .key
  | .colon _ _ => .colon
  | .after _ => if r.frames.isEmpty then .extra else .comma

/-- The reader after the first token of a value. -/
def beginValue (frames : List Frame) (complaint : ReadFault) : Token → Except ReadFault Reader
  | .openArray => .ok ⟨frames, .firstItem⟩
  | .openObject => .ok ⟨frames, .firstKey⟩
  | .text s => .ok ⟨frames, .after (.text s)⟩
  | .scalar v => .ok ⟨frames, .after v⟩
  | .broken e => .error e
  | _ => .error complaint

/-- The reader after a key. -/
def beginMember (frames : List Frame) (entries : Entries) (complaint : ReadFault) :
    Token → Except ReadFault Reader
  | .text s => .ok ⟨frames, .colon entries s⟩
  | .broken (.malformed c pos) => .error (.malformed c pos)
  | _ => .error complaint

/-- The reader after the token that follows a value in an open array or object. -/
def follow (v : Value) (frames : List Frame) (complaint : ReadFault) :
    Frame → Token → Except ReadFault Reader
  | .array items, .comma => .ok ⟨.array (items ++ [v]) :: frames, .value⟩
  | .array items, .closeArray => .ok ⟨frames, .after (.list (items ++ [v]))⟩
  | .member entries key, .comma => .ok ⟨frames, .key (Value.insert (.text key) v entries)⟩
  | .member entries key, .closeObject =>
    .ok ⟨frames, .after (.dict (Value.insert (.text key) v entries))⟩
  | _, _ => .error complaint

/-- The reader after one more token. -/
def step (r : Reader) (t : Placed) : Except ReadFault Reader :=
  let complaint := ReadFault.malformed r.complaint t.pos
  match r.stage, t.token with
  | .firstItem, .closeArray => .ok ⟨r.frames, .after (.list [])⟩
  | .firstItem, token => beginValue (.array [] :: r.frames) complaint token
  | .firstKey, .closeObject => .ok ⟨r.frames, .after (.dict [])⟩
  | .firstKey, token => beginMember r.frames [] complaint token
  | .value, token => beginValue r.frames complaint token
  | .key entries, token => beginMember r.frames entries complaint token
  | .colon entries key, .colon => .ok ⟨.member entries key :: r.frames, .value⟩
  | .colon _ _, _ => .error complaint
  | .after v, token =>
    match r.frames with
    | [] => .error complaint
    | frame :: frames => follow v frames complaint frame token

/-- The reader after some tokens. -/
def runFrom : Reader → List Placed → Except ReadFault Reader
  | r, [] => .ok r
  | r, t :: ts =>
    match step r t with
    | .error e => .error e
    | .ok r => runFrom r ts

/-- **Reading goes token by token.** -/
theorem runFrom_append (r : Reader) (ts us : List Placed) :
    runFrom r (ts ++ us) =
      match runFrom r ts with
      | .error e => .error e
      | .ok r => runFrom r us := by
  induction ts generalizing r with
  | nil => rfl
  | cons t ts ih =>
    simp only [List.cons_append, runFrom]
    cases step r t with
    | error e => rfl
    | ok r => exact ih r

/-- The value that has been read when the text ends at a position. -/
def Reader.finish (r : Reader) (stop : Nat) : Except ReadFault Value :=
  match r.stage, r.frames with
  | .after v, [] => .ok v
  | _, _ => .error (.malformed r.complaint stop)

/-- The byte order mark. -/
def byteOrderMark : Char := Char.ofNat 0xfeff

/-- The value of a JSON text. -/
def read (s : Text) : Except ReadFault Value :=
  if s.head? = some byteOrderMark then .error (.malformed .byteOrderMark 0)
  else
    match runFrom Reader.start (tokens s) with
    | .error e => .error e
    | .ok r => r.finish s.length

/-- The words for a complaint. -/
def Complaint.message : Complaint → Text
  | byteOrderMark => "Unexpected UTF-8 BOM (decode using utf-8-sig)".toList
  | value => "Expecting value".toList
  | key => "Expecting property name enclosed in double quotes".toList
  | colon => "Expecting ':' delimiter".toList
  | comma => "Expecting ',' delimiter".toList
  | extra => "Extra data".toList
  | unterminated => "Unterminated string starting at".toList
  | control => "Invalid control character at".toList
  | escape => "Invalid \\escape".toList
  | codeEscape => "Invalid \\uXXXX escape".toList

/-- The words for a position: its line, its column in that line, and the position itself. -/
def placeText (s : Text) (pos : Nat) : Text :=
  let before := s.take pos
  let line := before.count '\n' + 1
  let column := (before.reverse.takeWhile (· != '\n')).length + 1
  "line ".toList ++ Digits.decimal line ++ " column ".toList ++ Digits.decimal column
    ++ " (char ".toList ++ Digits.decimal pos ++ [')']

/-- The words for a fault of a text. -/
def ReadFault.message (s : Text) : ReadFault → Text
  | malformed complaint pos => complaint.message ++ [':', ' '] ++ placeText s pos
  | tooLong digits =>
    "Exceeds the limit (4300 digits) for integer string conversion: value has ".toList
      ++ Digits.decimal digits
      ++ " digits; use sys.set_int_max_str_digits() to increase the limit".toList

end Json

end Marginalia
