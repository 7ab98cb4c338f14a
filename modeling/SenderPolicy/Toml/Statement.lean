/-
The statements of a TOML document.

A document is a list of statements, one a line: headers of tables, headers in double brackets, and
keys with values.  Blank lines and comments do not count.
-/
import SenderPolicy.Toml.Quoted
import SenderPolicy.Toml.Scalar
import SenderPolicy.Toml.Tree

namespace SenderPolicy.Toml

open Quoted

/-- A statement.  A key is dotted if its path is not empty. -/
inductive Statement where
  /-- Opens a table. -/
  | header (path : List String) (name : String)
  /-- Adds a table to an array of tables. -/
  | item (path : List String) (name : String)
  /-- Gives a key a value. -/
  | pair (path : List String) (name : String) (v : Toml)

/-- A text without the blanks at its start. -/
def skipBlanks (s : List Char) : List Char := s.dropWhile isBlank

/-- A text without the blanks, line breaks and comments at its start.  The first argument says
whether the text begins inside a comment. -/
def skipLines : Bool → List Char → List Char
  | _, [] => []
  | _, '\n' :: rest => skipLines false rest
  | _, '\r' :: '\n' :: rest => skipLines false rest
  | inComment, c :: rest =>
    if inComment then if isInLine c then skipLines true rest else c :: rest
    else if isBlank c then skipLines false rest
    else if c = '#' then skipLines true rest
    else c :: rest

/-- The text after the end of a line, in front of which there may be blanks and a comment. -/
def afterLine? (s : List Char) : Option (List Char) :=
  let rest := match skipBlanks s with
    | '#' :: comment => comment.dropWhile isInLine
    | rest => rest
  match rest with
  | [] => some []
  | rest => afterBreak? rest

/-- A character of a name without quotes. -/
def isBare (c : Char) : Bool := c.isAlphanum || c == '_' || c == '-'

/-- Reads a name. -/
def readName? : List Char → Option (String × List Char)
  | '"' :: rest => readLine? '"' rest
  | '\x27' :: rest => readLine? '\x27' rest
  | s =>
    match s.takeWhile isBare with
    | [] => none
    | name => some (String.ofList name, s.dropWhile isBare)

/-- Reads names with dots between them.  The first argument bounds their number. -/
def readNames? : Nat → List Char → Option (List String × List Char)
  | 0, _ => none
  | n + 1, s => do
    let (name, rest) ← readName? (skipBlanks s)
    match skipBlanks rest with
    | '.' :: rest =>
      let (names, rest) ← readNames? n rest
      return (name :: names, rest)
    | rest => return ([name], rest)

/-- The number of names that a key has at most. -/
def maxNames : Nat := 79

/-- The number of arrays and tables that stand in each other at most. -/
def maxNesting : Nat := 79

/-- Reads a key: the names of its path and the name after them. -/
def readKey? (s : List Char) : Option ((List String × String) × List Char) := do
  let (names, rest) ← readNames? maxNames s
  let name ← names.getLast?
  return ((names.dropLast, name), rest)

mutual

/-- Reads a value in which at most `nesting` arrays and tables stand in each other.  The first
argument bounds the steps that reading takes. -/
def readValue? : Nat → Nat → List Char → Option (Toml × List Char)
  | 0, _, _ => none
  | fuel + 1, nesting, s =>
    match s, nesting with
    | '"' :: rest, _ => (Quoted.read? '"' rest).map fun (s, rest) => (.text s, rest)
    | '\x27' :: rest, _ => (Quoted.read? '\x27' rest).map fun (s, rest) => (.text s, rest)
    | '[' :: rest, nesting + 1 =>
      (readItems? fuel nesting rest).map fun (items, rest) => (.array items, rest)
    | '{' :: rest, nesting + 1 =>
      match skipBlanks rest with
      | '}' :: rest => some (.table [], rest)
      | rest => do
        let (pairs, rest) ← readPairs? fuel nesting rest
        return (.table (← inlineMembers? pairs), rest)
    | s, _ => Scalar.read? s

/-- Reads the items of an array up to the closing bracket. -/
def readItems? : Nat → Nat → List Char → Option (List Toml × List Char)
  | 0, _, _ => none
  | fuel + 1, nesting, s =>
    match skipLines false s with
    | ']' :: rest => some ([], rest)
    | s => do
      let (v, rest) ← readValue? fuel nesting s
      match skipLines false rest with
      | ']' :: rest => return ([v], rest)
      | ',' :: rest =>
        let (items, rest) ← readItems? fuel nesting rest
        return (v :: items, rest)
      | _ => none

/-- Reads the keys and values of a table up to the closing bracket; there is at least one. -/
def readPairs? :
    Nat → Nat → List Char → Option (List ((List String × String) × Toml) × List Char)
  | 0, _, _ => none
  | fuel + 1, nesting, s => do
    let (key, rest) ← readKey? s
    match rest with
    | '=' :: rest =>
      let (v, rest) ← readValue? fuel nesting (skipBlanks rest)
      match skipBlanks rest with
      | '}' :: rest => return ([(key, v)], rest)
      | ',' :: rest =>
        let (pairs, rest) ← readPairs? fuel nesting rest
        return ((key, v) :: pairs, rest)
      | _ => none
    | _ => none

end

/-- Reads a statement and the end of its line. -/
def readStatement? (s : List Char) : Option (Statement × List Char) := do
  match s with
  | '[' :: '[' :: rest =>
    let ((path, name), rest) ← readKey? rest
    match rest with
    | ']' :: ']' :: rest => return (.item path name, ← afterLine? rest)
    | _ => none
  | '[' :: rest =>
    let ((path, name), rest) ← readKey? rest
    match rest with
    | ']' :: rest => return (.header path name, ← afterLine? rest)
    | _ => none
  | s =>
    let ((path, name), rest) ← readKey? s
    match rest with
    | '=' :: rest =>
      let (v, rest) ← readValue? (2 * rest.length + 2) maxNesting (skipBlanks rest)
      return (.pair path name v, ← afterLine? rest)
    | _ => none

/-- Reads the statements of a text.  The first argument bounds the number of its lines. -/
def readStatements? : Nat → List Char → Option (List Statement)
  | 0, _ => none
  | n + 1, s =>
    match skipBlanks s with
    | [] => some []
    | c :: rest =>
      if c = '#' ∨ c = '\n' ∨ c = '\r' then do readStatements? n (← afterLine? (c :: rest))
      else do
        let (statement, rest) ← readStatement? (c :: rest)
        return statement :: (← readStatements? n rest)

/-- Adds what a statement says to a document, of which the header is open. -/
def addStatement (document : List String × List Entry) :
    Statement → Option (List String × List Entry)
  | .header path name => do return (path ++ [name], ← openTable path name document.2)
  | .item path name => do return (path ++ [name], ← openTables path name document.2)
  | .pair path name v => do return (document.1, ← putBelow document.1 path name v document.2)

/-- Reads a document: the members of its outermost table.  A byte order mark in front of it does not
count. -/
def read? (s : String) : Option (List (String × Toml)) := do
  let chars := match s.toList with
    | '\uFEFF' :: rest => rest
    | chars => chars
  let statements ← readStatements? (chars.length + 1) chars
  let (_, members) ← statements.foldlM addStatement ([], [])
  return membersOf members

end SenderPolicy.Toml
