/-
Media types, as a `Content-Type` field names them.

A media type is written as a type and a subtype with a slash between them.  A subtype may end in a
suffix after a plus sign, which names the format that it builds on.  Parameters may follow after
semicolons; they are checked here and otherwise ignored.
-/
import SenderPolicy.Text.Split

namespace SenderPolicy.Web

/-- A media type in lower case. -/
structure MediaType where
  type : List Char
  subtype : List Char
  deriving DecidableEq, Repr

namespace MediaType

/-- A character of the names in a media type. -/
def isToken (c : Char) : Bool :=
  c.isAlphanum || ['!', '#', '$', '%', '&', '\x27', '*', '+', '-', '.', '^', '_', '\x60', '|',
    '~'].contains c

/-- A character that may stand between quotes. -/
def isQuotable (c : Char) : Bool := 0x20 ≤ c.toNat && c.toNat < 0x7F

/-- What follows a quoted value, whose opening quote is gone: a quoted value has at least one
character, and ends at the next quote after it. -/
def afterQuoted? : List Char → Option (List Char)
  | [] => none
  | c :: rest =>
    match rest.dropWhile fun c => isQuotable c && c != '"' with
    | '"' :: tail => if isQuotable c then some tail else none
    | _ => none

/-- What follows the value of a parameter and the semicolon after it. -/
def afterValue? : List Char → Option (List Char)
  | '"' :: rest => do
    match (← afterQuoted? rest).dropWhile (· == ' ') with
    | [] => some []
    | c :: tail => if c = ';' then some tail else none
  | s =>
    match s.dropWhile isToken with
    | [] => some []
    | c :: tail => if c = ';' ∧ s.takeWhile isToken ≠ [] then some tail else none

/-- What follows the name of a parameter and the equals sign after it. -/
def afterName? (s : List Char) : Option (List Char) :=
  match s.takeWhile isToken, s.dropWhile isToken with
  | _ :: _, '=' :: tail => some tail
  | _, _ => none

/-- Whether a text consists of at most the given number of parameters. -/
def areParameters : Nat → List Char → Bool
  | 0, s => s.isEmpty
  | n + 1, s =>
    match s.dropWhile (· == ' ') with
    | [] => true
    | s => ((afterName? s).bind afterValue?).any (areParameters n)

/-- Reads a media type. -/
def read? (s : List Char) : Option MediaType :=
  let type := s.takeWhile isToken
  match s.dropWhile isToken with
  | '/' :: rest =>
    let subtype := rest.takeWhile isToken
    let isComplete : Bool := match rest.dropWhile isToken with
      | [] => true
      | ';' :: parameters => !subtype.isEmpty && areParameters parameters.length parameters
      | _ => false
    if type ≠ [] ∧ isComplete then some ⟨type.map Char.toLower, subtype.map Char.toLower⟩ else none
  | _ => none

/-- The place of the last plus sign of a subtype that does not begin with it. -/
def plus? (t : MediaType) : Option Nat :=
  match t.subtype.reverse.findIdx? (· == '+') with
  | none => none
  | some i => if i + 1 < t.subtype.length then some (t.subtype.length - 1 - i) else none

/-- The subtype without its suffix. -/
def baseSubtype (t : MediaType) : List Char :=
  match t.plus? with
  | none => t.subtype
  | some i => t.subtype.take i

/-- The suffix of the subtype. -/
def suffix? (t : MediaType) : Option (List Char) :=
  t.plus?.map fun i => t.subtype.drop (i + 1)

/-- Whether documents of a media type are JSON. -/
def isJson (t : MediaType) : Bool :=
  String.ofList t.type == "application" &&
    (String.ofList t.baseSubtype == "json" || t.suffix?.any fun s => String.ofList s == "json")

end MediaType

end SenderPolicy.Web
