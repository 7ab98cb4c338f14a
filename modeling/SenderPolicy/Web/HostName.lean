/-
Host names in ASCII.

A host name consists of labels with dots between them.  Before anything else, its characters are
replaced by those they stand for.  A label with other characters than ASCII is then written as a
prefix and its encoding in ASCII; a label that has the prefix already must be such an encoding.
Either way the characters behind it must make a label: it does not begin with a mark, joiners stand
where letters join, and all labels agree in their direction.
-/
import SenderPolicy.Text.Bidi
import SenderPolicy.Text.Joining
import SenderPolicy.Text.Normalization
import SenderPolicy.Text.Punycode
import SenderPolicy.Web.HostName.Characters

namespace SenderPolicy.Web.HostName

open Text

/-- Whether a character is one of ASCII. -/
def isAscii (c : Char) : Bool := c.toNat < 0x80

/-- Whether a character of ASCII may not stand in the host name of a URL. -/
def isForbidden (c : Char) : Bool :=
  c.toNat ≤ 0x20 || c.toNat == 0x7F ||
    ['%', '#', '/', ':', '<', '>', '?', '@', '[', '\\', ']', '^', '|'].contains c

/-- What stands in front of a label that is an encoding. -/
def encodingMark : List Char := ['x', 'n', '-', '-']

/-- The number of characters of the longest encoding that is read. -/
def maxEncoding : Nat := 2000

/-- The number of characters of the longest label that is encoded. -/
def maxEncoded : Nat := 1000

/-- A label in ASCII, and the characters it stands for. -/
structure Label where
  ascii : List Char
  chars : List Char
  deriving DecidableEq, Repr

namespace Label

/-- Whether characters are those of an encoding: they are in normal form and stand for
themselves. -/
def isEncodable (chars : List Char) : Bool :=
  chars.all isPlain && Normalization.normalForm chars == chars

/-- Whether characters make a label, its direction aside. -/
def isWellFormed (chars : List Char) : Bool :=
  chars.all isAscii ||
    (!chars.head?.any Mark.isMark && JoiningType.allFit [] chars && chars.length ≤ maxEncoded)

/-- The characters behind a label of which the characters are replaced. -/
def chars? (s : List Char) : Option (List Char) :=
  if encodingMark.isPrefixOf s then
    let encoding := s.drop encodingMark.length
    if s.all isAscii && encoding.length ≤ maxEncoding && encoding.getLast?.any (· != '-') then
      (Punycode.decode? encoding).filter isEncodable
    else none
  else some s

/-- Reads a label of which the characters are replaced. -/
def read? (s : List Char) : Option Label := do
  let chars ← chars? s
  if !isWellFormed chars then none
  else if s.all isAscii then some ⟨s, chars⟩
  else some ⟨encodingMark ++ Punycode.encode chars, chars⟩

end Label

/-- The characters of a host name, replaced by those they stand for. -/
def mappedText? (s : List Char) : Option (List Char) :=
  (s.mapM mapped?).map fun parts => Normalization.normalForm parts.flatten

/-- The labels of a host name. -/
def labels? (s : List Char) : Option (List Label) := do
  let s ← mappedText? s
  if s.any isForbidden then none
  else
    let labels ← (split (· == '.') s).mapM Label.read?
    if BidiClass.agree (labels.map Label.chars) then some labels else none

/-- A host name in ASCII. -/
def toAscii? (s : List Char) : Option String :=
  (labels? s).map fun labels =>
    ".".intercalate (labels.map fun label => String.ofList label.ascii)

end SenderPolicy.Web.HostName
