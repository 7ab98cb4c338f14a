/-
Quoted texts in TOML.

A text stands between double quotes, with escapes, or between single quotes, without.  A text
between three quotes may go on over several lines; a line break right after the opening quotes does
not belong to it, and up to two more quotes may stand before the closing ones.  There a backslash at
the end of a line takes out the line break and all blanks and line breaks after it.
-/
import SenderPolicy.Text.Hex

namespace SenderPolicy.Toml.Quoted

open Text

/-- The blanks of TOML. -/
def isBlank (c : Char) : Bool := c == ' ' || c == '\t'

/-- A character that may stand in a line: the tab and all that is no control character. -/
def isInLine (c : Char) : Bool := c == '\t' || (0x20 ≤ c.toNat && c != '\x7f')

/-- The text after a line break. -/
def afterBreak? : List Char → Option (List Char)
  | '\n' :: rest => some rest
  | '\r' :: '\n' :: rest => some rest
  | _ => none

/-- Cuts a text at the first quote.  If there are escapes, a quote after a backslash is none. -/
def cutAtQuote? (quote : Char) (escapes : Bool) : List Char → Option (List Char × List Char)
  | [] => none
  | [c] => if c = quote then some ([], []) else none
  | c :: d :: rest =>
    if c = quote then some ([], d :: rest)
    else if c = '\\' ∧ escapes then
      (cutAtQuote? quote escapes rest).map fun (before, after) => (c :: d :: before, after)
    else
      (cutAtQuote? quote escapes (d :: rest)).map fun (before, after) => (c :: before, after)

/-- Cuts a text at the first three quotes in a row.  The quotes after them, two at most, go to the
front instead. -/
def cutAtQuotes? (quote : Char) (escapes : Bool) : List Char → Option (List Char × List Char)
  | [] => none
  | c :: rest =>
    if c = quote ∧ rest.take 2 = [quote, quote] then
      let more := ((rest.drop 2).takeWhile (· == quote)).take 2
      some (more, rest.drop (2 + more.length))
    else if c = '\\' ∧ escapes then
      match rest with
      | [] => none
      | d :: rest =>
        (cutAtQuotes? quote escapes rest).map fun (before, after) => (c :: d :: before, after)
    else (cutAtQuotes? quote escapes rest).map fun (before, after) => (c :: before, after)

/-- A text in which every line break is a line feed. -/
def withLineFeeds : List Char → List Char
  | '\r' :: '\n' :: rest => '\n' :: withLineFeeds rest
  | c :: rest => c :: withLineFeeds rest
  | [] => []

/-- Whether there is nothing but blanks up to the end of the line. -/
def endsLine (s : List Char) : Bool := ((s.dropWhile isBlank).head?).any (· == '\n')

/-- Takes out the backslashes at the ends of lines, with the blanks and the line breaks after
them.  The first argument says whether the text follows such a backslash. -/
def joinLines : Bool → List Char → List Char
  | _, [] => []
  | skipping, [c] => if skipping ∧ (isBlank c ∨ c = '\n') then [] else [c]
  | skipping, c :: d :: rest =>
    if skipping ∧ (isBlank c ∨ c = '\n') then joinLines true (d :: rest)
    else if c = '\\' then
      if endsLine (d :: rest) then joinLines true (d :: rest)
      else c :: d :: joinLines false rest
    else c :: joinLines false (d :: rest)

/-- The number of hexadecimal digits. -/
def hexNumber? (digits : List Char) : Option Nat := do
  let values ← digits.mapM Hex.value?
  return values.foldl (fun n d => n * 16 + d) 0

/-- The character of a code point in hexadecimal digits. -/
def codePoint? (digits : List Char) : Option Char := do
  let n ← hexNumber? digits
  if n.isValidChar then some (Char.ofNat n) else none

/-- The character that a letter after a backslash stands for. -/
def escaped? : Char → Option Char
  | '"' => some '"'
  | '\\' => some '\\'
  | 'b' => some '\x08'
  | 'f' => some '\x0c'
  | 'n' => some '\n'
  | 'r' => some '\r'
  | 't' => some '\t'
  | _ => none

/-- The text that escapes stand for, if all characters but the escapes satisfy `isPlain`. -/
def unescape? (isPlain : Char → Bool) : List Char → Option (List Char)
  | [] => some []
  | '\\' :: 'u' :: a :: b :: c :: d :: rest => do
    return (← codePoint? [a, b, c, d]) :: (← unescape? isPlain rest)
  | '\\' :: 'U' :: a :: b :: c :: d :: e :: f :: g :: h :: rest => do
    return (← codePoint? [a, b, c, d, e, f, g, h]) :: (← unescape? isPlain rest)
  | '\\' :: c :: rest => do
    return (← escaped? c) :: (← unescape? isPlain rest)
  | c :: rest =>
    if isPlain c ∧ c ≠ '\\' then (c :: ·) <$> unescape? isPlain rest else none

/-- A text that stands for itself, if all its characters satisfy `isPlain`. -/
def literal? (isPlain : Char → Bool) (s : List Char) : Option (List Char) :=
  if s.all isPlain then some s else none

/-- Reads a text on one line after its opening quote. -/
def readLine? (quote : Char) (rest : List Char) : Option (String × List Char) := do
  let (raw, rest) ← cutAtQuote? quote (quote == '"') rest
  let s ← if quote = '"' then unescape? isInLine raw else literal? isInLine raw
  return (String.ofList s, rest)

/-- Reads a text on several lines after its opening quotes. -/
def readLines? (quote : Char) (rest : List Char) : Option (String × List Char) := do
  let (raw, rest) ← cutAtQuotes? quote (quote == '"') ((afterBreak? rest).getD rest)
  let raw := withLineFeeds raw
  let isPlain (c : Char) : Bool := isInLine c || c == '\n'
  let s ← if quote = '"' then unescape? isPlain (joinLines false raw) else literal? isPlain raw
  return (String.ofList s, rest)

/-- Reads a text that may be on several lines, after its opening quote. -/
def read? (quote : Char) (rest : List Char) : Option (String × List Char) :=
  if rest.take 2 = [quote, quote] then readLines? quote (rest.drop 2) else readLine? quote rest

end SenderPolicy.Toml.Quoted
