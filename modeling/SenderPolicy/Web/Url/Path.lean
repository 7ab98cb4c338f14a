/-
The paths of URLs.

A path is a list of segments, each with a slash in front.  A segment of one dot is left out, and one
of two dots takes the segment before it away, unless that is a drive letter.  The path of a file
does not begin with more than one slash, and a drive letter at its start has a colon.
-/
import SenderPolicy.Text.Split
import SenderPolicy.Web.Url.Basic

namespace SenderPolicy.Web.Url

open Text

/-- Whether a segment stands for the directory itself. -/
def isSingleDot (s : List Char) : Bool :=
  let s := s.map Char.toLower
  s == ['.'] || s == ['%', '2', 'e']

/-- Whether a segment stands for the directory above. -/
def isDoubleDot (s : List Char) : Bool :=
  let s := s.map Char.toLower
  s == ['.', '.'] || s == ['.', '%', '2', 'e'] || s == ['%', '2', 'e', '.'] ||
    s == ['%', '2', 'e', '%', '2', 'e']

/-- Whether a segment is a letter with a colon or a vertical bar after it. -/
def isDriveLetter : List Char → Bool
  | [c, d] => c.isAlpha && (d == ':' || d == '|')
  | _ => false

/-- Goes up one directory from given segments in reverse. -/
def goUp : List (List Char) → List (List Char)
  | [] => []
  | s :: before => if isDriveLetter s then s :: before else before

/-- A segment in the normal form of a scheme, given the segments before it. -/
def normalSegment (scheme : String) (before : List (List Char)) (s : List Char) : List Char :=
  if scheme == fileScheme && before.isEmpty && isDriveLetter s then s.take 1 ++ [':'] else s

/-- The segments of a path without dot segments, given the segments before them in reverse. -/
def resolveDots (scheme : String) (before : List (List Char)) :
    List (List Char) → List (List Char)
  | [] => before.reverse
  | [last] =>
    if isDoubleDot last then ([] :: goUp before).reverse
    else if isSingleDot last then ([] :: before).reverse
    else (normalSegment scheme before last :: before).reverse
  | s :: rest =>
    if isDoubleDot s then resolveDots scheme (goUp before) rest
    else if isSingleDot s then resolveDots scheme before rest
    else resolveDots scheme (normalSegment scheme before s :: before) rest

/-- The segments of a path.  The slash in front of the first one may be missing. -/
def segments (scheme : String) (path : List Char) : List (List Char) :=
  let path := match path with
    | c :: rest => if isSlash scheme c then rest else c :: rest
    | [] => []
  resolveDots scheme [] (split (isSlash scheme) path)

/-- The path of segments. -/
def joinSegments (segments : List (List Char)) : String :=
  String.join (segments.map fun s => "/" ++ String.ofList (percentEncode inPath s))

/-- The normal form of the path after a host. -/
def pathAfterHost (scheme : String) (path : List Char) : String :=
  if path.isEmpty && !isSpecial scheme then "" else joinSegments (segments scheme path)

/-- The normal form of a path that begins with a slash where there is no host.  It is kept from
looking like a host. -/
def pathWithoutHost (scheme : String) (path : List Char) : String :=
  match segments scheme path with
  | [] :: s :: rest => "/." ++ joinSegments ([] :: s :: rest)
  | segments => joinSegments segments

/-- The normal form of the path of a file, and whether it begins with a drive letter. -/
def filePath (path : List Char) : String × Bool :=
  let segments := segments fileScheme path
  let kept := segments.dropWhile List.isEmpty
  (joinSegments (if kept.isEmpty then [[]] else kept), segments.head?.any isDriveLetter)

end SenderPolicy.Web.Url
