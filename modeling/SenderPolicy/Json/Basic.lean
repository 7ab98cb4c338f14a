/-
JSON documents.

A document is what a JSON text says.  Objects keep their members in order, repeated names included.
Of the numbers only the natural ones below `2 ^ 64` are kept, since nothing in this library has
another one.

A part of a text may fail to have a value although the text around it can be read: a string with
half a surrogate pair, a number beyond the range of the numbers, or the place where the text stops
being JSON.  Such a part is `unreadable`.  It matters only to a reader that wants its value.
-/
namespace SenderPolicy

mutual

/-- A JSON document. -/
inductive Json where
  | null
  | bool (b : Bool)
  /-- A natural number below `2 ^ 64`, written without a sign, a fraction or an exponent. -/
  | natural (n : Nat)
  /-- Any other number. -/
  | otherNumber
  | string (s : String)
  | array (items : List Json)
  | object (members : List Member)
  /-- A part that has no value. -/
  | unreadable

/-- A member of an object; the name is missing if it is unreadable. -/
inductive Member where
  | mk (name : Option String) (value : Json)

end

namespace Member

/-- The member of an object with the given name. -/
def named (name : String) (value : Json) : Member := .mk (some name) value

end Member

namespace Json

/-- The document for a text that may be missing. -/
def ofText? : Option String → Json
  | none => null
  | some s => string s

end Json

end SenderPolicy
