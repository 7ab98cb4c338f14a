/-
Percent-encoding and forms.

A byte is percent-encoded as a percent sign and two hexadecimal digits.  Decoding leaves a percent
sign alone that no two digits follow.  A form is a list of fields, each with a name and a value; it
is written with ampersands between the fields, equals signs between names and values, plus signs for
blanks, and all but letters, digits and four marks percent-encoded.
-/
import SenderPolicy.Text.Hex
import SenderPolicy.Text.Split
import SenderPolicy.Text.Utf8

namespace SenderPolicy.Web

open Text

/-- A byte as a percent sign and two digits. -/
def percentByte (b : UInt8) : List Char :=
  ['%', Hex.upperDigit (b.toNat / 16), Hex.upperDigit (b.toNat % 16)]

/-- A text in which the bytes of every character that does not satisfy `keep` are
percent-encoded. -/
def percentEncode (keep : Char → Bool) (s : List Char) : List Char :=
  s.flatMap fun c => if keep c then [c] else (String.utf8EncodeChar c).flatMap percentByte

/-- The value of a byte that is the code of a hexadecimal digit. -/
def hexValue? (b : UInt8) : Option Nat := Hex.value? (Char.ofNat b.toNat)

/-- The bytes that percent-encoded bytes stand for. -/
def percentDecode : List UInt8 → List UInt8
  | [] => []
  | 0x25 :: a :: b :: rest =>
    match hexValue? a, hexValue? b with
    | some x, some y => UInt8.ofNat (x * 16 + y) :: percentDecode rest
    | _, _ => 0x25 :: percentDecode (a :: b :: rest)
  | b :: rest => b :: percentDecode rest

namespace Form

/-- The characters that a form leaves as they are. -/
def isPlain (c : Char) : Bool :=
  c.isAlphanum || c == '*' || c == '-' || c == '.' || c == '_'

/-- A name or a value as a form writes it. -/
def encodeText (s : String) : String :=
  String.ofList ((percentEncode (fun c => isPlain c || c == ' ') s.toList).map fun c =>
    if c = ' ' then '+' else c)

/-- A form. -/
def encode (form : List (String × String)) : String :=
  "&".intercalate (form.map fun e => encodeText e.1 ++ "=" ++ encodeText e.2)

/-- The name or the value that a form writes in this way. -/
def decodeText (s : List Char) : String :=
  let spaced := s.map fun c => if c = '+' then ' ' else c
  Utf8.decodeLossy (percentDecode (Utf8.encode (String.ofList spaced)))

/-- The field that a text between ampersands stands for. -/
def decodeField (s : List Char) : String × String :=
  (decodeText (s.takeWhile (· != '=')), decodeText ((s.dropWhile (· != '=')).drop 1))

/-- The fields of a form in order.  Nothing between two ampersands is no field. -/
def decode (s : String) : List (String × String) :=
  ((split (· == '&') s.toList).filter fun field => !field.isEmpty).map decodeField

end Form

end SenderPolicy.Web
