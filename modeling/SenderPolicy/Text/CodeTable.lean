/-
Tables of code points, written as text.

A table has entries with blanks between them.  An entry begins with what it is about: a code point,
or the first and the last code point of a range with a hyphen between them.  A colon may follow, and
after it the code points that belong to the entry, with dots between them.  All code points are in
hexadecimal digits.  The tables of this library hold properties of characters in version 17 of the
Unicode character database.
-/
import SenderPolicy.Text.Hex
import SenderPolicy.Text.Split

namespace SenderPolicy.Text

/-- An entry of a table. -/
structure CodeEntry where
  first : Nat
  last : Nat
  /-- What belongs to the code points of the entry. -/
  values : List Nat
  deriving DecidableEq, Repr

namespace CodeEntry

/-- The value of hexadecimal digits. -/
def code (digits : List Char) : Nat :=
  digits.foldl (fun n c => n * 16 + (Hex.value? c).getD 0) 0

/-- Reads an entry. -/
def ofText (s : List Char) : CodeEntry :=
  let (about, values) := s.span (· != ':')
  let (first, last) := about.span (· != '-')
  { first := code first
    last := if last.isEmpty then code first else code (last.drop 1)
    values := if values.isEmpty then [] else (split (· == '.') (values.drop 1)).map code }

/-- Whether an entry is about a character. -/
def isAbout (e : CodeEntry) (c : Char) : Bool := e.first ≤ c.toNat && c.toNat ≤ e.last

/-- The characters that belong to a character of an entry.  Where there is a single one for a range,
it belongs to the first character of the range, and the characters after it to the others in
order. -/
def charsOf (e : CodeEntry) (c : Char) : List Char :=
  match e.values with
  | [n] => [Char.ofNat (n + (c.toNat - e.first))]
  | values => values.map Char.ofNat

end CodeEntry

/-- A table of code points. -/
abbrev CodeTable := List CodeEntry

namespace CodeTable

/-- Reads a table. -/
def ofText (s : String) : CodeTable := (words s.toList).map CodeEntry.ofText

/-- The entry that is about a character. -/
def entry? (t : CodeTable) (c : Char) : Option CodeEntry := t.find? (·.isAbout c)

/-- Whether some entry is about a character. -/
def mentions (t : CodeTable) (c : Char) : Bool := t.any (·.isAbout c)

end CodeTable

end SenderPolicy.Text
