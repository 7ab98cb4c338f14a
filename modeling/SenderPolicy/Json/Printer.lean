/-
Writing JSON documents.

The compact form has no blanks.  The indented form puts every item and every member on a line of
its own, two blanks deeper than the brackets around it, and an empty array or object stays closed.
-/
import SenderPolicy.Json.Basic
import SenderPolicy.Json.Quoted

namespace SenderPolicy.Json

/-- The text of a document without parts of its own.  A number that was not kept and an unreadable
part have no text but that of nothing. -/
def scalar : Json → List Char
  | bool true => "true".toList
  | bool false => "false".toList
  | natural n => Nat.toDigits 10 n
  | string s => Quoted.encode s.toList
  | _ => "null".toList

/-- The name of a member, with its quotes. -/
def nameText (name : Option String) : List Char := Quoted.encode (name.getD "").toList

mutual

/-- The characters of the compact form of a document. -/
def compactChars : Json → List Char
  | array [] => ['[', ']']
  | array (j :: js) => '[' :: compactChars j ++ compactItems js
  | object [] => ['{', '}']
  | object (m :: ms) => '{' :: compactMember m ++ compactMembers ms
  | null => "null".toList
  | bool b => scalar (bool b)
  | natural n => scalar (natural n)
  | otherNumber => scalar otherNumber
  | string s => scalar (string s)
  | unreadable => scalar unreadable

/-- The items of an array after the first, with the closing bracket. -/
def compactItems : List Json → List Char
  | [] => [']']
  | j :: js => ',' :: compactChars j ++ compactItems js

/-- The members of an object after the first, with the closing bracket. -/
def compactMembers : List Member → List Char
  | [] => ['}']
  | m :: ms => ',' :: compactMember m ++ compactMembers ms

/-- One member of an object. -/
def compactMember : Member → List Char
  | .mk name value => nameText name ++ ':' :: compactChars value

end

/-- The compact form of a document. -/
def compact (j : Json) : String := String.ofList (compactChars j)

/-- The start of a new line at the given level. -/
def newLine (level : Nat) : List Char := '\n' :: List.replicate (2 * level) ' '

mutual

/-- The characters of the indented form of a document whose brackets stand at the given level. -/
def indentedChars (level : Nat) : Json → List Char
  | array [] => ['[', ']']
  | array (j :: js) =>
    '[' :: newLine (level + 1) ++ indentedChars (level + 1) j ++ indentedItems level js
  | object [] => ['{', '}']
  | object (m :: ms) =>
    '{' :: newLine (level + 1) ++ indentedMember (level + 1) m ++ indentedMembers level ms
  | null => "null".toList
  | bool b => scalar (bool b)
  | natural n => scalar (natural n)
  | otherNumber => scalar otherNumber
  | string s => scalar (string s)
  | unreadable => scalar unreadable

/-- The items after the first of an array whose brackets stand at the given level. -/
def indentedItems (level : Nat) : List Json → List Char
  | [] => newLine level ++ [']']
  | j :: js =>
    ',' :: newLine (level + 1) ++ indentedChars (level + 1) j ++ indentedItems level js

/-- The members after the first of an object whose brackets stand at the given level. -/
def indentedMembers (level : Nat) : List Member → List Char
  | [] => newLine level ++ ['}']
  | m :: ms =>
    ',' :: newLine (level + 1) ++ indentedMember (level + 1) m ++ indentedMembers level ms

/-- One member of an object, at the given level. -/
def indentedMember (level : Nat) : Member → List Char
  | .mk name value => nameText name ++ ':' :: ' ' :: indentedChars level value

end

/-- The indented form of a document. -/
def indented (j : Json) : String := String.ofList (indentedChars 0 j)

end SenderPolicy.Json
