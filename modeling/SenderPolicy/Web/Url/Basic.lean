/-
Absolute web addresses.

A URL has a scheme, for most schemes a host with an optional port, a path, and optionally a query
and a fragment.  In front of the host may stand a user name and a password.  The parts of a URL are
kept in the normal form in which they are written: the scheme and the host are in lower case, the
port is left out where it is the usual one, there are no dot segments in the path, and characters
that may not stand in a part are percent-encoded.
-/
import SenderPolicy.Text.Utf8
import SenderPolicy.Web.Percent

namespace SenderPolicy.Web

open Text

/-- Who asks for a resource. -/
structure Credentials where
  user : String
  password : Option String := none
  deriving DecidableEq, Repr

/-- An absolute URL in normal form. -/
structure Url where
  scheme : String
  credentials : Option Credentials := none
  /-- The host; it is missing if none is written, and may also be empty. -/
  host : Option String
  port : Option Nat := none
  path : String
  query : Option String := none
  fragment : Option String := none
  deriving DecidableEq, Repr

namespace Credentials

/-- Whether a percent-encoded text stands for characters. -/
def isText (s : String) : Bool := (Utf8.decode? (percentDecode (Utf8.encode s))).isSome

/-- Whether credentials can be presented: the user name is a text, and it is not empty unless there
is a password that is a text. -/
def isPresentable (c : Credentials) : Bool :=
  isText c.user && (c.user != "" || c.password.any isText)

/-- The text of credentials, with the at sign after them. -/
def text (c : Credentials) : String := c.user ++ (c.password.elim "" (":" ++ ·)) ++ "@"

end Credentials

namespace Url

/-- Whether a character may stand in a scheme. -/
def isSchemeChar (c : Char) : Bool := c.isAlphanum || c == '+' || c == '-' || c == '.'

/-- The usual port of a scheme whose addresses have hosts. -/
def usualPort? : String → Option Nat
  | "http" => some 80
  | "https" => some 443
  | "ws" => some 80
  | "wss" => some 443
  | "ftp" => some 21
  | _ => none

/-- The scheme of files, which need no host. -/
def fileScheme : String := "file"

/-- Whether the addresses of a scheme have a path of segments in any case, and the names of their
hosts are those of the domain name system. -/
def isSpecial (scheme : String) : Bool := (usualPort? scheme).isSome || scheme == fileScheme

/-- Whether a character separates the segments of a path. -/
def isSlash (scheme : String) (c : Char) : Bool := c == '/' || (isSpecial scheme && c == '\\')

/-- Whether a character is a visible one of ASCII or the blank. -/
def isPrintable (c : Char) : Bool := 0x20 ≤ c.toNat && c.toNat < 0x7F

/-- Whether a character stands for itself in a fragment. -/
def inFragment (c : Char) : Bool := isPrintable c && !([' ', '"', '<', '>', '\x60'].contains c)

/-- Whether a character stands for itself in a path. -/
def inPath (c : Char) : Bool := inFragment c && !(['#', '?', '\x7b', '\x7d'].contains c)

/-- Whether a character stands for itself in a user name or a password. -/
def inCredentials (c : Char) : Bool :=
  inPath c && !(['/', ':', ';', '=', '@', '[', '\\', ']', '^', '|'].contains c)

/-- Whether a character stands for itself in the query of a URL of the given scheme. -/
def inQuery (scheme : String) (c : Char) : Bool :=
  isPrintable c && !([' ', '"', '<', '>', '#'].contains c) && !(isSpecial scheme && c == '\x27')

/-- Whether a URL names a host. -/
def hasHost (u : Url) : Bool := u.host.any fun h => h != ""

/-- The URL without credentials that can be presented in another way. -/
def withoutCredentials (u : Url) : Url :=
  if u.credentials.any Credentials.isPresentable then { u with credentials := none } else u

/-- The text of a URL. -/
def text (u : Url) : String :=
  let authority := match u.host with
    | none => ""
    | some host =>
      "//" ++ (u.credentials.elim "" Credentials.text) ++ host ++
        (u.port.elim "" fun n => ":" ++ toString n)
  u.scheme ++ ":" ++ authority ++ u.path ++ (u.query.elim "" ("?" ++ ·)) ++
    (u.fragment.elim "" ("#" ++ ·))

/-- The URL with the fields of a form added to its query. -/
def addQuery (u : Url) (form : List (String × String)) : Url :=
  let added := Form.encode form
  let query := match u.query with
    | none => added
    | some "" => added
    | some q => q ++ "&" ++ added
  { u with query := some query }

/-- The number of bytes of the longest URL that a request can be sent to. -/
def maxRequestBytes : Nat := 65534

/-- Whether a request can be sent to a URL: it is not too long, and its host has none of four
characters that a request cannot name. -/
def isRequestable (u : Url) : Bool :=
  u.text.utf8ByteSize ≤ maxRequestBytes &&
    !(u.host.any fun h => h.toList.any ['"', '\x60', '\x7b', '\x7d'].contains)

end Url

end SenderPolicy.Web
