/-
Reading absolute URLs.

The parts of a URL are cut apart first: the fragment begins at the first number sign, the query at
the first question mark before it, and what follows the scheme is cut into a host with a port and a
path.  Then each part is brought into its normal form.
-/
import SenderPolicy.Web.Url.Host
import SenderPolicy.Web.Url.Path

namespace SenderPolicy.Web.Url

open Text

/-- The end of a URL from the query on. -/
structure Tail where
  query : Option String
  fragment : Option String

/-- A text cut into what stands before a query or a fragment, and these. -/
def cutTail (scheme : String) (s : List Char) : List Char × Tail :=
  let (front, fragment) := s.span (· != '#')
  let (front, query) := front.span (· != '?')
  let normal (keep : Char → Bool) (part : List Char) : Option String :=
    if part.isEmpty then none else some (String.ofList (percentEncode keep (part.drop 1)))
  (front, { query := normal (inQuery scheme) query, fragment := normal inFragment fragment })

/-- Cuts a text at the last at sign. -/
def cutCredentials (s : List Char) : Option (List Char) × List Char :=
  match s.reverse.span (· != '@') with
  | (_, []) => (none, s)
  | (host, _ :: credentials) => (some credentials.reverse, host.reverse)

/-- The normal form of a user name and a password. -/
def normalCredentials (s : List Char) : Option Credentials :=
  let (user, password) := s.span (· != ':')
  let user := String.ofList (percentEncode inCredentials user)
  match password.drop 1 with
  | [] => if user = "" then none else some { user }
  | password =>
    some { user, password := some (String.ofList (percentEncode inCredentials password)) }

/-- Cuts a host with a port at the colon between them, which stands outside of brackets. -/
def cutPort (isInside : Bool) : List Char → List Char × List Char
  | [] => ([], [])
  | c :: rest =>
    if c = ':' ∧ !isInside then ([], c :: rest)
    else
      let (host, port) := cutPort (c == '[' || (isInside && c != ']')) rest
      (c :: host, port)

/-- The normal form of the port of a scheme; none is an empty one. -/
def port? (scheme : String) (s : List Char) : Option (Option Nat) :=
  if s = [] then some none
  else do
    let n ← Net.decimalValue? s
    if n ≥ UInt16.size then none
    else some (if usualPort? scheme = some n then none else some n)

/-- Reads what follows the scheme and the slashes of a URL with a host.  A port may be ended by a
backslash, which then belongs to the path. -/
def readAuthority? (scheme : String) (s : List Char) : Option Url := do
  let (front, tail) := cutTail scheme s
  let (authority, path) := front.span fun c => !isSlash scheme c
  let (written, hostAndPort) := cutCredentials authority
  let (host, port) := cutPort false hostAndPort
  let (port, endOfPort) := port.span (· != '\\')
  let credentials := written.bind normalCredentials
  let endsAfterAt := written = some [] ∧ hostAndPort = [] ∧ authority.length < s.length
  if endsAfterAt ∨ host = [] ∧ (isSpecial scheme ∨ port ≠ [] ∨ credentials.isSome) then none
  else
    let host ← if host = [] then some "" else host? scheme host
    let port ← port? scheme (port.drop 1)
    return { scheme, credentials, host := some host, port
             path := pathAfterHost scheme (endOfPort ++ path)
             query := tail.query, fragment := tail.fragment }

/-- Reads what follows the scheme of a URL without a host.  Where there is no slash in front, the
path is no list of segments. -/
def readPath (scheme : String) (s : List Char) : Url :=
  let (path, tail) := cutTail scheme s
  let path := match path with
    | '/' :: _ => pathWithoutHost scheme path
    | _ => String.ofList (percentEncode isPrintable path)
  { scheme, host := none, path, query := tail.query, fragment := tail.fragment }

/-- The URL of a file on a host. -/
def ofFile (host : String) (path : List Char) (tail : Tail) : Url :=
  let (path, hasDrive) := filePath path
  { scheme := fileScheme, host := some (if hasDrive then "" else host), path
    query := tail.query, fragment := tail.fragment }

/-- Reads what follows the scheme of a file.  A drive letter in the place of a host belongs to the
path, and the machine itself needs not be named. -/
def readFile? (s : List Char) : Option Url :=
  let (front, tail) := cutTail fileScheme s
  match front with
  | a :: b :: rest =>
    if isSlash fileScheme a && isSlash fileScheme b then
      let (host, path) := rest.span fun c => !isSlash fileScheme c
      if isDriveLetter host then some (ofFile "" rest tail)
      else if host = [] then some (ofFile "" path tail)
      else (host? fileScheme host).map fun host =>
        ofFile (if host = "localhost" then "" else host) path tail
    else some (ofFile "" front tail)
  | front => some (ofFile "" front tail)

/-- Cuts a URL after its scheme. -/
def cutScheme? (s : List Char) : Option (String × List Char) :=
  match s.span (· != ':') with
  | (c :: name, _ :: rest) =>
    if c.isAlpha && name.all isSchemeChar then
      some ((String.ofList (c :: name)).toLower, rest)
    else none
  | _ => none

/-- The characters of a URL: control characters and blanks at its ends do not belong to it, nor do
tabs and line breaks anywhere. -/
def relevant (s : List Char) : List Char :=
  let isControl (c : Char) : Bool := c.toNat ≤ 0x20
  (dropEndWhile isControl (s.dropWhile isControl)).filter fun c =>
    c != '\t' && c != '\n' && c != '\r'

/-- Reads an absolute URL. -/
def read? (s : String) : Option Url := do
  let (scheme, rest) ← cutScheme? (relevant s.toList)
  if scheme = fileScheme then readFile? rest
  else if isSpecial scheme then readAuthority? scheme (rest.dropWhile (isSlash scheme))
  else match rest with
    | '/' :: '/' :: rest => readAuthority? scheme rest
    | rest => some (readPath scheme rest)

end SenderPolicy.Web.Url
