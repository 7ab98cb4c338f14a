/-
Reading JSON documents.

Reading never fails outright.  Where a text stops being JSON, the document goes on with an
unreadable part and ends there, and the reading says that the text is not whole.  So a reader of
the document meets what is wrong with a text in the order in which it stands there.
-/
import SenderPolicy.Json.Basic
import SenderPolicy.Json.Quoted
import SenderPolicy.Text.Utf8

namespace SenderPolicy.Json

/-- The blanks of JSON. -/
def isSpace (c : Char) : Bool := c == ' ' || c == '\n' || c == '\t' || c == '\r'

/-- A text without the blanks at its start. -/
def skipSpace (s : List Char) : List Char := s.dropWhile isSpace

/-- The value of a list of decimal digits. -/
def digitsValue (digits : List Char) : Nat :=
  digits.foldl (fun n c => n * 10 + (c.toNat - 48)) 0

/-- The parts of a number as it is written. -/
structure NumberText where
  negative : Bool
  whole : List Char
  /-- The digits after the point; there is no point if there are none. -/
  fraction : List Char
  /-- The sign and the digits of the exponent; there is none if there are no digits. -/
  exponentNegative : Bool
  exponent : List Char

namespace NumberText

/-- The whole part of a number: a single zero, or digits of which the first is none. -/
def whole? : List Char → Option (List Char × List Char)
  | '0' :: rest =>
    match rest with
    | c :: _ => if c.isDigit then none else some (['0'], rest)
    | [] => some (['0'], [])
  | s => match s.span Char.isDigit with
    | ([], _) => none
    | (digits, rest) => some (digits, rest)

/-- The digits after the point. -/
def fraction? : List Char → Option (List Char × List Char)
  | '.' :: rest => match rest.span Char.isDigit with
    | ([], _) => none
    | (digits, rest) => some (digits, rest)
  | s => some ([], s)

/-- An optional sign. -/
def sign : List Char → Bool × List Char
  | '-' :: rest => (true, rest)
  | '+' :: rest => (false, rest)
  | s => (false, s)

/-- The sign and the digits of the exponent. -/
def exponent? (s : List Char) : Option (Bool × List Char × List Char) :=
  match s with
  | c :: rest =>
    if c = 'e' ∨ c = 'E' then
      let (negative, rest) := sign rest
      match rest.span Char.isDigit with
      | ([], _) => none
      | (digits, rest) => some (negative, digits, rest)
    else some (false, [], s)
  | [] => some (false, [], [])

/-- The number at the start of a text, and the text after it. -/
def read? (s : List Char) : Option (NumberText × List Char) := do
  let (negative, s) := match s with
    | '-' :: rest => (true, rest)
    | _ => (false, s)
  let (whole, s) ← whole? s
  let (fraction, s) ← fraction? s
  let (exponentNegative, exponent, s) ← exponent? s
  return ({ negative, whole, fraction, exponentNegative, exponent }, s)

/-- Whether a number is written without a sign, a fraction and an exponent. -/
def isNatural (t : NumberText) : Bool :=
  !t.negative && t.fraction.isEmpty && t.exponent.isEmpty

/-- A natural number continued by digits as long as it stays below `2 ^ 64`, and how many digits are
left over. -/
def continued (n : Nat) : List Char → Nat × Nat
  | [] => (n, 0)
  | c :: rest =>
    let m := n * 10 + (c.toNat - 48)
    if m < UInt64.size then continued m rest else (n, rest.length + 1)

/-- A number as a significand below `2 ^ 64` and an exponent of ten.  Digits for which the
significand has no room do not count, except that those in front of the point raise the exponent. -/
def scientific (t : NumberText) : Nat × Int :=
  let (n, wholeLeft) := continued 0 t.whole
  let (n, fractionLeft) := continued n t.fraction
  let e : Int := digitsValue t.exponent
  (n, wholeLeft - (t.fraction.length - fractionLeft : Nat) + if t.exponentNegative then -e else e)

/-- The nearest natural number that has at most 53 binary digits in front of its last zeros.  Of two
that are equally near, the one whose last such digit is zero. -/
def rounded (n : Nat) : Nat :=
  let unit := Nat.pow 2 (Nat.log2 n - 52)
  let low := n / unit
  let rest := n % unit
  if unit < 2 * rest ∨ unit = 2 * rest ∧ low % 2 = 1 then (low + 1) * unit else low * unit

/-- Whether a number is too large for a binary floating-point number of 64 bits: whether the product
of its significand and the power of ten, both rounded, is beyond all of them. -/
def isTooLarge (t : NumberText) : Bool :=
  let (n, e) := t.scientific
  if n = 0 ∨ e < 0 then false
  else if e > 308 then true
  else rounded n * rounded (Nat.pow 10 e.toNat) ≥ Nat.pow 2 1024 - Nat.pow 2 970

/-- The document of a number. -/
def toJson (t : NumberText) : Json :=
  if t.isNatural && digitsValue t.whole < UInt64.size then .natural (digitsValue t.whole)
  else if t.isTooLarge then .unreadable
  else .otherNumber

end NumberText

/-- What was read from a text: a document, and the rest of the text unless the text stopped being
JSON. -/
abbrev Reading (α : Type) := α × Option (List Char)

/-- Reads a word that stands for a document. -/
def readWord (word : String) (j : Json) (s : List Char) : Reading Json :=
  if word.toList.isPrefixOf s then (j, some (s.drop word.length)) else (.unreadable, none)

/-- Reads a number. -/
def readNumber (s : List Char) : Reading Json :=
  match NumberText.read? s with
  | some (t, rest) => (t.toJson, some rest)
  | none => (.unreadable, none)

/-- Reads a string after its opening quote. -/
def readString (s : List Char) : Reading (Option String) :=
  match Quoted.units? s with
  | some (units, rest) => ((Quoted.chars? units).map String.ofList, some rest)
  | none => (none, none)

/-- The document of a string that may be unreadable. -/
def ofString? : Option String → Json
  | some s => .string s
  | none => .unreadable

mutual

/-- Reads a document.  The first argument bounds the steps that reading takes. -/
def readValue : Nat → List Char → Reading Json
  | 0, _ => (.unreadable, none)
  | fuel + 1, s =>
    match skipSpace s with
    | '"' :: rest =>
      let (text, rest) := readString rest
      (ofString? text, rest)
    | '[' :: rest =>
      match skipSpace rest with
      | ']' :: rest => (.array [], some rest)
      | rest =>
        let (items, rest) := readItems fuel rest
        (.array items, rest)
    | '{' :: rest =>
      match skipSpace rest with
      | '}' :: rest => (.object [], some rest)
      | rest =>
        let (members, rest) := readMembers fuel rest
        (.object members, rest)
    | 'n' :: rest => readWord "null" .null ('n' :: rest)
    | 't' :: rest => readWord "true" (.bool true) ('t' :: rest)
    | 'f' :: rest => readWord "false" (.bool false) ('f' :: rest)
    | rest => readNumber rest

/-- Reads the items of an array up to the closing bracket; there is at least one. -/
def readItems : Nat → List Char → Reading (List Json)
  | 0, _ => ([.unreadable], none)
  | fuel + 1, s =>
    match readValue fuel s with
    | (item, none) => ([item], none)
    | (item, some rest) =>
      match skipSpace rest with
      | ']' :: rest => ([item], some rest)
      | ',' :: rest =>
        let (items, rest) := readItems fuel rest
        (item :: items, rest)
      | _ => ([item, .unreadable], none)

/-- Reads the members of an object up to the closing bracket; there is at least one. -/
def readMembers : Nat → List Char → Reading (List Member)
  | 0, _ => ([.mk none .unreadable], none)
  | fuel + 1, s =>
    match skipSpace s with
    | '"' :: rest =>
      match readString rest with
      | (name, none) => ([.mk name .unreadable], none)
      | (name, some rest) =>
        match skipSpace rest with
        | ':' :: rest =>
          match readValue fuel rest with
          | (value, none) => ([.mk name value], none)
          | (value, some rest) =>
            match skipSpace rest with
            | '}' :: rest => ([.mk name value], some rest)
            | ',' :: rest =>
              let (members, rest) := readMembers fuel rest
              (.mk name value :: members, rest)
            | _ => ([.mk name value, .mk none .unreadable], none)
        | _ => ([.mk name .unreadable], none)
    | _ => ([.mk none .unreadable], none)

end

/-- Reads a text.  The reading is whole if the text is a JSON document and nothing else. -/
def read (s : List Char) : Json × Bool :=
  match readValue (2 * s.length + 2) s with
  | (j, none) => (j, false)
  | (j, some rest) => (j, (skipSpace rest).isEmpty)

/-- What stands for bytes that are not UTF-8.  In a string it has no value, like them, because of
half a surrogate pair; anywhere else, and right after a backslash, its first character is wrong. -/
def malformed : List Char := ['\uFFFD', '\\', 'u', 'd', 'c', '0', '0']

/-- The text to read in place of bytes that may not be UTF-8. -/
def textOfBytes (bytes : List UInt8) : String :=
  String.ofList ((Text.Utf8.pieces bytes).flatMap fun piece => piece.elim malformed ([·]))

end SenderPolicy.Json
