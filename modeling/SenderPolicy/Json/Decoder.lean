/-
From JSON documents to values.

A decoder wants a document of a certain shape.  A record of fields may be written as an object,
whose unknown members are skipped and whose known members must not be repeated, or as an array of
the fields in order.  The brackets that a decoder goes into may be nested to a certain depth only.

What is wrong with a text is found in the order of the text: it is either not JSON, or JSON of
another shape.
-/
import SenderPolicy.Json.Reader

namespace SenderPolicy.Json

/-- What is wrong with a JSON text. -/
inductive Fault where
  /-- The text is not JSON, or nested too deeply. -/
  | notJson
  /-- The text is JSON of another shape than wanted. -/
  | otherShape
  deriving DecidableEq, Repr

/-- A decoder, given the depth to which brackets may still be nested. -/
abbrev Decoder (α : Type) := Nat → Json → Except Fault α

/-- The depth to which brackets may be nested. -/
def maxDepth : Nat := 127

/-- The fault of meeting a document where another shape is wanted. -/
def mismatch {α : Type} : Json → Except Fault α
  | unreadable => .error .notJson
  | _ => .error .otherShape

/-- Wants a string. -/
def decodeString : Decoder String
  | _, string s => .ok s
  | _, j => mismatch j

/-- Wants a truth value. -/
def decodeBool : Decoder Bool
  | _, bool b => .ok b
  | _, j => mismatch j

/-- Wants a natural number below the bound. -/
def decodeNatural (bound : Nat) : Decoder Nat
  | _, natural n => if n < bound then .ok n else .error .otherShape
  | _, j => mismatch j

/-- Wants null or what the decoder wants. -/
def decodeOption {α : Type} (d : Decoder α) : Decoder (Option α)
  | _, null => .ok none
  | depth, j => some <$> d depth j

/-- Wants an array of what the decoder wants. -/
def decodeList {α : Type} (d : Decoder α) : Decoder (List α)
  | 0, array _ => .error .notJson
  | depth + 1, array items => items.mapM (d depth)
  | _, j => mismatch j

/-- Wants one of a number of names, as a string or as the name of the only member of an object, with
null for its value. -/
def decodeName {α : Type} (ofName? : String → Option α) : Decoder α
  | _, string s =>
    match ofName? s with
    | some a => .ok a
    | none => .error .otherShape
  | 0, object _ => .error .notJson
  | _ + 1, object (.mk (some s) value :: others) =>
    match ofName? s, value, others with
    | none, _, _ => .error .otherShape
    | some a, null, [] => .ok a
    | some _, null, _ => .error .notJson
    | some _, value, _ => mismatch value
  | _, _ => .error .notJson

/-- How a record of fields is decoded: step by step into a draft. -/
structure Shape (σ : Type) where
  /-- The names of the fields in order, each with whether an array may end before it. -/
  fields : List (String × Bool)
  /-- The draft before any field was met. -/
  start : σ
  /-- Takes a field into the draft.  A name that is no field changes nothing. -/
  put : σ → String → Json → Except Fault σ

namespace Shape

variable {σ : Type}

/-- Takes the members of an object into a draft. -/
def putMembers (shape : Shape σ) : σ → List Member → Except Fault σ
  | draft, [] => .ok draft
  | _, .mk none _ :: _ => .error .notJson
  | draft, .mk (some name) value :: members => do
    putMembers shape (← shape.put draft name value) members

/-- Takes the items of an array into a draft. -/
def putItems (shape : Shape σ) : σ → List (String × Bool) → List Json → Except Fault σ
  | draft, [], [] => .ok draft
  | _, [], _ :: _ => .error .notJson
  | draft, fields, [] => if fields.all (·.2) then .ok draft else .error .otherShape
  | draft, (name, _) :: fields, item :: items => do
    putItems shape (← shape.put draft name item) fields items

/-- Wants a record of fields.  The function makes the shape from the depth to which brackets may be
nested inside, and the draft goes to `finish` after the last field. -/
def decode {α : Type} (shape : Nat → Shape σ) (finish : σ → Except Fault α) : Decoder α
  | 0, object _ => .error .notJson
  | 0, array _ => .error .notJson
  | depth + 1, object members => do
    finish (← (shape depth).putMembers (shape depth).start members)
  | depth + 1, array items => do
    finish (← (shape depth).putItems (shape depth).start (shape depth).fields items)
  | _, j => mismatch j

end Shape

/-- Fills a field of a draft, which must be empty so far. -/
def fill {α : Type} (field : Option α) (value : Except Fault α) : Except Fault (Option α) :=
  match field with
  | some _ => .error .otherShape
  | none => some <$> value

/-- The value of a field that must have been filled. -/
def required {α : Type} : Option α → Except Fault α
  | some a => .ok a
  | none => .error .otherShape

/-- Reads a text as the decoder wants it. -/
def decodeText {α : Type} (d : Decoder α) (text : String) : Except Fault α :=
  let (j, isWhole) := read text.toList
  match d maxDepth j with
  | .error fault => .error fault
  | .ok a => if isWhole then .ok a else .error .notJson

/-- Reads bytes as the decoder wants them.  They need not be UTF-8 where no value is wanted. -/
def decodeBytes {α : Type} (d : Decoder α) (bytes : List UInt8) : Except Fault α :=
  decodeText d (textOfBytes bytes)

end SenderPolicy.Json
