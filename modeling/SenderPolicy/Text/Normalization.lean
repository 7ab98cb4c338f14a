/-
Texts in their composed normal form.

Two texts are canonically equivalent if they decompose into the same characters, up to the order of
marks whose order does not matter.  Each text has one normal form among those it is equivalent to:
it is decomposed, marks are put in the order of their combining classes, and then characters are put
together wherever they have a composite.  A mark goes into the last character in front of it that is
no mark, unless a mark of the same or a higher class stands between them.
-/
import SenderPolicy.Text.Decomposition
import SenderPolicy.Text.Mark

namespace SenderPolicy.Text.Normalization

open Mark

/-- Puts a character behind a text that is in order and given in reverse. -/
def insert (c : Char) : List Char → List Char
  | [] => [c]
  | d :: before =>
    if combiningClass c ≠ 0 ∧ combiningClass c < combiningClass d then d :: insert c before
    else c :: d :: before

/-- A text with its marks in order. -/
def ordered (s : List Char) : List Char :=
  (s.foldl (fun before c => insert c before) []).reverse

/-- Whether a mark cannot be put together with what stands in front of the marks before it, which
are given in reverse. -/
def isBlocked (marks : List Char) (c : Char) : Bool :=
  match marks with
  | [] => false
  | d :: _ => combiningClass c ≤ combiningClass d

/-- Composes a text behind a character and the marks after it, which are given in reverse. -/
def composedAfter (base : Char) (marks : List Char) : List Char → List Char
  | [] => base :: marks.reverse
  | c :: rest =>
    match if isBlocked marks c then none else Decomposition.join? base c with
    | some composite => composedAfter composite marks rest
    | none =>
      if combiningClass c = 0 then base :: marks.reverse ++ composedAfter c [] rest
      else composedAfter base (c :: marks) rest

/-- Composes a text whose marks are in order. -/
def composed : List Char → List Char
  | [] => []
  | c :: rest =>
    if combiningClass c = 0 then composedAfter c [] rest else c :: composed rest

/-- The normal form of a text. -/
def normalForm (s : List Char) : List Char :=
  if s.all fun c => c.toNat < 0x80 then s
  else composed (ordered (s.flatMap Decomposition.ofChar))

end SenderPolicy.Text.Normalization
