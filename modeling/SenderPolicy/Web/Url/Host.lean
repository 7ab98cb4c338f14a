/-
The hosts of URLs.

A host is an IPv6 address in brackets, an IPv4 address or a name.  Any name of which the last part
is a number is meant to be an IPv4 address.  Its one to four parts are decimal numbers, octal ones
with a zero in front or hexadecimal ones, and the last part stands for all octets that are left.
Schemes that are not special take almost any text for a host.
-/
import SenderPolicy.Net.Address
import SenderPolicy.Web.HostName
import SenderPolicy.Web.Url.Basic

namespace SenderPolicy.Web.Url

open Text

/-- A part of an IPv4 address: a decimal number, one in eight or one in sixteen digits. -/
def ipv4Part? (s : List Char) : Option Nat :=
  match s with
  | '0' :: x :: rest =>
    if x = 'x' ∨ x = 'X' then
      if rest = [] then some 0 else Net.hexadecimalValue? rest
    else if (x :: rest).all fun c => '0' ≤ c && c ≤ '7' then
      some ((x :: rest).foldl (fun n c => n * 8 + (c.toNat - 48)) 0)
    else none
  | s => Net.decimalValue? s

/-- Whether the last part of a host name makes it an IPv4 address. -/
def endsInNumber (parts : List (List Char)) : Bool :=
  match parts.getLast? with
  | some last => (!last.isEmpty && last.all Char.isDigit) || (ipv4Part? last).isSome
  | none => false

/-- The IPv4 address of numbers, the last of which fills what the others leave. -/
def ipv4OfParts? (parts : List Nat) : Option Net.Ipv4 :=
  match parts.getLast? with
  | none => none
  | some last =>
    let front := parts.dropLast
    let left := 4 - front.length
    if parts.length > 4 ∨ front.any (· > 255) ∨ last ≥ Nat.pow 256 left then none
    else
      let lastOctets := (List.range left).map fun i =>
        UInt8.ofNat (last / Nat.pow 256 (left - 1 - i))
      some ⟨front.map UInt8.ofNat ++ lastOctets⟩

/-- The normal form of an IPv6 address between brackets, of which the first is left out. -/
def ipv6Host? (s : List Char) : Option String :=
  if s.getLast? = some ']' then
    (Net.Ipv6.read? s.dropLast).map fun a => "[" ++ a.groupsText ++ "]"
  else none

/-- The normal form of a name or an IPv4 address, which may be percent-encoded. -/
def specialHost? (s : List Char) : Option String := do
  let decoded ← Utf8.decode? (percentDecode (Utf8.encode (String.ofList s)))
  let name ← HostName.toAscii? decoded.toList
  let parts := split (· == '.') name.toList
  let parts := if parts.getLast? = some [] ∧ parts.length > 1 then parts.dropLast else parts
  if name = "" then none
  else if endsInNumber parts then
    ((parts.mapM ipv4Part?).bind ipv4OfParts?).map Net.Ipv4.text
  else some name

/-- Whether a character may not stand in a host of a scheme that is not special. -/
def endsOtherHost (c : Char) : Bool :=
  ['\x00', '\t', '\n', '\r', ' ', '#', '/', ':', '<', '>', '?', '@', '[', '\\', ']', '^',
    '|'].contains c

/-- The normal form of a host of a scheme that is not special. -/
def otherHost? (s : List Char) : Option String :=
  if s.any endsOtherHost then none else some (String.ofList (percentEncode isPrintable s))

/-- The normal form of a host. -/
def host? (scheme : String) (s : List Char) : Option String :=
  match s with
  | '[' :: rest => ipv6Host? rest
  | s => if isSpecial scheme then specialHost? s else otherHost? s

end SenderPolicy.Web.Url
