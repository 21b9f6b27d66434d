import Marginalia.Text.CodePage.Dos
import Marginalia.Text.CodePage.Iso
import Marginalia.Text.CodePage.Mainframe
import Marginalia.Text.CodePage.Other
import Marginalia.Text.CodePage.Windows

/-!
# Character encodings of files

An encoding is asked for by a name, in which case and what stands between letters and digits do not
matter. Some encodings put a mark at the start of a file, but not in front of what is added to a
file later.

## Main definitions

* `Encoding`: the encodings a file can be asked to be written in
* `Encoding.named`: the encoding of a name
* `Encoding.encode`: the bytes of a text, or why there are none

## Main results

* `Encoding.encode_utf8`: every text has bytes in UTF-8
-/

namespace Marginalia

/-- Which byte of a unit comes first. -/
inductive ByteOrder where
  | low
  | high
  deriving DecidableEq, Repr

/-- The encodings a file can be asked to be written in. -/
inductive Encoding where
  /-- All characters, one to four bytes each, after a mark or without one. -/
  | utf8 (marked : Bool)
  /-- All characters, in units of two bytes. Without an order a mark tells that the low byte is the
  first. -/
  | utf16 (order? : Option ByteOrder)
  /-- All characters, in units of four bytes. -/
  | utf32 (order? : Option ByteOrder)
  /-- The first 128 characters, one byte each. -/
  | ascii
  /-- The first 256 characters, one byte each. -/
  | latin1
  /-- The characters of a code page. -/
  | page (p : CodePage)
  /-- What this name stands for encodes no texts. -/
  | noText (name : Text)
  /-- This name stands for nothing. -/
  | unknown (name : Text)
  /-- What was given holds the character of code point zero and is no name. -/
  | noName

/-- The first run of characters that an encoding has no bytes for. -/
structure Unencodable where
  /-- The name of the encoding. -/
  encoding : Text
  /-- Why it has no bytes for them. -/
  reason : Text
  /-- The first character of the run. -/
  char : Char
  /-- Its position. -/
  first : Nat
  /-- The position after the run. -/
  stop : Nat
  deriving DecidableEq, Repr

/-- Why a text has no bytes. -/
inductive EncodingFault where
  /-- The encoding has no bytes for some characters. -/
  | unencodable (e : Unencodable)
  /-- There is no encoding of this name. -/
  | unknown (name : Text)
  /-- What this name stands for encodes no texts. -/
  | noText (name : Text)
  /-- What was given holds the character of code point zero and is no name. -/
  | noName
  deriving DecidableEq, Repr

namespace Encoding

/-! ## Names -/

/-- Whether the character belongs to the name of an encoding. -/
def isNamePart (c : Char) : Bool := c.isAlphanum || c == '.'

/-- A name in small letters, with a low line for whatever stands between letters and digits. -/
def plainName (name : Text) : Text :=
  Text.joined ['_'] (name.words fun c => !isNamePart c) |>.map Char.toLower

/-- Whether one of the names, the first of which is never spelled with points, is the plain name. -/
def isAmong (names : String) (plain : Text) : Bool :=
  let ns := Text.words (· == ' ') names.toList
  ns.contains plain || ns.tail.contains (plain.map fun c => if c = '.' then '_' else c)

/-- The names of the encodings that are no code pages. -/
def basicNames : List (String × Encoding) :=
  [("utf_8 cp65001 u8 utf utf8 utf8_ucs2 utf8_ucs4", .utf8 false), ("utf_8_sig", .utf8 true),
    ("utf_16 u16 utf16", .utf16 none),
    ("utf_16_le unicodelittleunmarked utf_16le", .utf16 (some .low)),
    ("utf_16_be unicodebigunmarked utf_16be", .utf16 (some .high)),
    ("utf_32 u32 utf32", .utf32 none), ("utf_32_le utf_32le", .utf32 (some .low)),
    ("utf_32_be utf_32be", .utf32 (some .high)),
    ("ascii 646 ansi_x3.4_1968 ansi_x3.4_1986 ansi_x3_4_1968 cp367 csascii ibm367 iso646_us " ++
      "iso_646.irv_1991 iso_ir_6 us us_ascii", .ascii),
    ("latin_1 8859 cp819 csisolatin1 ibm819 iso8859 iso8859_1 iso_8859_1 iso_8859_1_1987 " ++
      "iso_ir_100 l1 latin latin1 charmap", .latin1)]

/-- The names of what encodes no texts. -/
def textlessNames : List String :=
  ["base64_codec base64 base_64", "bz2_codec bz2", "hex_codec hex",
    "quopri_codec quopri quoted_printable quotedprintable", "rot_13 rot13", "uu_codec uu",
    "zlib_codec zip zlib"]

/-- All code pages. -/
def pages : List CodePage := isoPages ++ windowsPages ++ dosPages ++ mainframePages ++ otherPages

/-- The name that stands for the encoding of the surroundings, which is UTF-8. -/
def localName : Text := "locale".toList

/-- The encoding of a name. -/
def named (name : Text) : Encoding :=
  let plain := plainName name
  if name.any fun c => c.toNat == 0 then .noName
  else if name = localName then .utf8 false
  else
    match basicNames.find? fun (names, _) => isAmong names plain with
    | some (_, e) => e
    | none =>
      match pages.find? fun p => isAmong p.names plain with
      | some p => .page p
      | none => if textlessNames.any (isAmong · plain) then .noText name else .unknown name

/-- Whether a file can be opened with what was given for an encoding. -/
def opens : Encoding → Bool
  | noName => false
  | _ => true

/-! ## Bytes -/

/-- A unit of two bytes. -/
def unit16 (order : ByteOrder) (n : Nat) : Bytes :=
  let low := UInt8.ofNat (n % 256)
  let high := UInt8.ofNat (n / 256)
  match order with
  | .low => [low, high]
  | .high => [high, low]

/-- The units of a character: one, or a surrogate pair. -/
def encodeChar16 (order : ByteOrder) (c : Char) : Bytes :=
  let n := c.toNat
  if n < 0x10000 then unit16 order n
  else
    unit16 order (0xd800 + (n - 0x10000) / 1024) ++ unit16 order (0xdc00 + (n - 0x10000) % 1024)

/-- The unit of four bytes of a character. -/
def encodeChar32 (order : ByteOrder) (c : Char) : Bytes :=
  let low := unit16 order (c.toNat % 65536)
  let high := unit16 order (c.toNat / 65536)
  match order with
  | .low => low ++ high
  | .high => high ++ low

/-- The character that marks the start of a file. -/
def mark : Char := Char.ofNat 0xfeff

/-- A text after the mark, where there is one. -/
def marking (marked : Bool) (s : Text) : Text := if marked then mark :: s else s

/-- The first run of characters without bytes, in a text that starts at position `pos`. -/
def firstWithout? (byte? : Char → Option UInt8) (name reason : Text) :
    Nat → Text → Option Unencodable
  | _, [] => none
  | pos, c :: r =>
    if (byte? c).isSome then firstWithout? byte? name reason (pos + 1) r
    else
      some ⟨name, reason, c, pos, pos + 1 + (r.takeWhile fun d => (byte? d).isNone).length⟩

/-- The bytes of a text, one for each character, or the first run of characters without bytes. -/
def encodeBy (byte? : Char → Option UInt8) (name reason : Text) (s : Text) :
    Except EncodingFault Bytes :=
  match firstWithout? byte? name reason 0 s with
  | some bad => .error (.unencodable bad)
  | none => .ok (s.filterMap byte?)

/-- The byte of one of the first characters. -/
def byteBelow? (limit : Nat) (c : Char) : Option UInt8 :=
  if c.toNat < limit then some (UInt8.ofNat c.toNat) else none

/-- Why one of the first characters alone have bytes. -/
def rangeReason (limit : Nat) : Text :=
  Text.enclosed "ordinal not in range(".toList [')'] (Digits.decimal limit)

/-- The bytes of a text, or why there are none; `fresh` tells that they are the first of a file. -/
def encode (e : Encoding) (fresh : Bool) (s : Text) : Except EncodingFault Bytes :=
  match e with
  | utf8 marked => .ok (Utf8.encode (marking (marked && fresh) s))
  | utf16 (some order) => .ok (s.flatMap (encodeChar16 order))
  | utf16 none => .ok ((marking fresh s).flatMap (encodeChar16 .low))
  | utf32 (some order) => .ok (s.flatMap (encodeChar32 order))
  | utf32 none => .ok ((marking fresh s).flatMap (encodeChar32 .low))
  | ascii => encodeBy (byteBelow? 0x80) "ascii".toList (rangeReason 0x80) s
  | latin1 => encodeBy (byteBelow? 0x100) "latin-1".toList (rangeReason 0x100) s
  | page p => encodeBy p.byte? "charmap".toList "character maps to <undefined>".toList s
  | noText name => .error (.noText name)
  | unknown name => .error (.unknown name)
  | noName => .error .noName

/-- **Every text has bytes in UTF-8.** -/
@[simp] theorem encode_utf8 (fresh : Bool) (s : Text) :
    encode (.utf8 false) fresh s = .ok (Utf8.encode s) := rfl

end Encoding

/-- A character by its code point, as error messages show it. -/
def Unencodable.charText (c : Char) : Text :=
  let n := c.toNat
  if n < 0x100 then "\\x".toList ++ Digits.hexWide false 2 n
  else if n < 0x10000 then "\\u".toList ++ Digits.hexWide false 4 n
  else "\\U".toList ++ Digits.hexWide false 8 n

/-- The words for a run of characters without bytes. -/
def Unencodable.message (e : Unencodable) : Text :=
  Text.enclosed ['\''] ['\''] e.encoding ++ " codec can't encode ".toList ++
    (if e.stop - e.first = 1 then
      "character '".toList ++ charText e.char ++ "' in position ".toList ++ Digits.decimal e.first
    else
      "characters in position ".toList ++ Digits.decimal e.first ++ ['-']
        ++ Digits.decimal (e.stop - 1))
    ++ ": ".toList ++ e.reason

namespace EncodingFault

/-- The words for the fault. -/
def message : EncodingFault → Text
  | unencodable e => e.message
  | unknown name => "unknown encoding: ".toList ++ name
  | noText name =>
    Text.enclosed ['\''] ['\''] name
      ++ " is not a text encoding; use codecs.open() to handle arbitrary codecs".toList
  | noName => "embedded null character".toList

/-- The name of the class of errors that the fault belongs to. -/
def className : EncodingFault → Text
  | unencodable _ => "UnicodeEncodeError".toList
  | unknown _ => "LookupError".toList
  | noText _ => "LookupError".toList
  | noName => "ValueError".toList

end EncodingFault

end Marginalia
