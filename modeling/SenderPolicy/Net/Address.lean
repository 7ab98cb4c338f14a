/-
Network addresses and their text.

An IPv4 address is written as four decimal numbers.  An IPv6 address is written as eight groups of
hexadecimal digits; two colons stand for a run of zero groups, and the last two groups may be
written as an IPv4 address.  Where an address is written out, the first of the longest runs of at
least two zero groups is left out.  A socket address has a port as well, and an IPv6 one, whose
address stands in brackets, may have a scope.
-/
import SenderPolicy.Text.Hex
import SenderPolicy.Text.Split

namespace SenderPolicy.Net

open Text

/-- An IPv4 address. -/
structure Ipv4 where
  octets : List UInt8
  deriving DecidableEq, Repr

/-- An IPv6 address, by its eight groups. -/
structure Ipv6 where
  groups : List UInt16
  deriving DecidableEq, Repr

/-- An address of either kind. -/
inductive Ip where
  | v4 (address : Ipv4)
  | v6 (address : Ipv6)
  deriving DecidableEq, Repr

/-- An address with a port; the scope belongs to an IPv6 address and is zero if there is none. -/
structure SocketAddress where
  ip : Ip
  port : UInt16
  scope : UInt32 := 0
  deriving DecidableEq, Repr

/-- The value of a text of decimal digits. -/
def decimalValue? (s : List Char) : Option Nat :=
  if s ≠ [] ∧ s.all Char.isDigit then
    some (s.foldl (fun n c => n * 10 + (c.toNat - 48)) 0)
  else none

/-- The value of a text of hexadecimal digits. -/
def hexadecimalValue? (s : List Char) : Option Nat :=
  if s = [] then none
  else do
    let digits ← s.mapM Hex.value?
    return digits.foldl (fun n d => n * 16 + d) 0

namespace Ipv4

/-- Reads one of the four numbers: at most three digits, without a zero in front of others. -/
def octet? (s : List Char) : Option UInt8 :=
  match s with
  | '0' :: _ :: _ => none
  | _ =>
    if s.length > 3 then none
    else do
      let n ← decimalValue? s
      if n < 256 then some (UInt8.ofNat n) else none

/-- Reads an IPv4 address. -/
def read? (s : List Char) : Option Ipv4 := do
  let octets ← (split (· == '.') s).mapM octet?
  if octets.length = 4 then some ⟨octets⟩ else none

/-- The text of an IPv4 address. -/
def text (a : Ipv4) : String := ".".intercalate (a.octets.map fun o => toString o.toNat)

/-- The two groups of an IPv6 address that hold an IPv4 address. -/
def groups (a : Ipv4) : List UInt16 :=
  match a.octets with
  | [a, b, c, d] =>
    [UInt16.ofNat (a.toNat * 256 + b.toNat), UInt16.ofNat (c.toNat * 256 + d.toNat)]
  | _ => []

end Ipv4

namespace Ipv6

/-- Reads a group of at most four hexadecimal digits. -/
def group? (s : List Char) : Option UInt16 :=
  if s.length > 4 then none
  else do
    let n ← hexadecimalValue? s
    return UInt16.ofNat n

/-- Reads groups with single colons between them, of which the last may be an IPv4 address. -/
def groups? : List (List Char) → Option (List UInt16)
  | [] => some []
  | [last] =>
    match group? last with
    | some g => some [g]
    | none => Ipv4.groups <$> Ipv4.read? last
  | s :: rest => do
    let g ← group? s
    let gs ← groups? rest
    return g :: gs

/-- Cuts a text at the first two colons in a row. -/
def cutAtGap? : List Char → Option (List Char × List Char)
  | ':' :: ':' :: rest => some ([], rest)
  | c :: rest => (cutAtGap? rest).map fun (before, after) => (c :: before, after)
  | [] => none

/-- Reads groups that may be none at all. -/
def someGroups? (s : List Char) : Option (List UInt16) :=
  if s = [] then some [] else groups? (split (· == ':') s)

/-- Whether a text has an IPv4 address at its end. -/
def endsDotted (s : List Char) : Bool := s.contains '.'

/-- Reads an IPv6 address.  An IPv4 address may stand at its end only, and two colons stand for at
least one group. -/
def read? (s : List Char) : Option Ipv6 :=
  match cutAtGap? s with
  | none => do
    let groups ← groups? (split (· == ':') s)
    if groups.length = 8 then some ⟨groups⟩ else none
  | some (before, after) =>
    if endsDotted before then none
    else do
      let front ← someGroups? before
      let back ← someGroups? after
      if front.length + back.length < 8 then
        some ⟨front ++ List.replicate (8 - front.length - back.length) 0 ++ back⟩
      else none

/-- The length of the run of zeros at the start of a list. -/
def zeroRun (groups : List UInt16) : Nat := (groups.takeWhile (· == 0)).length

/-- The start and the length of the first of the longest runs of zeros, given the start of the list
and the best run before it. -/
def longestRun (start : Nat) (best : Nat × Nat) : List UInt16 → Nat × Nat
  | [] => best
  | g :: rest =>
    let n := zeroRun (g :: rest)
    longestRun (start + 1) (if n > best.2 then (start, n) else best) rest

/-- A group in hexadecimal digits. -/
def groupText (g : UInt16) : String := String.ofList (Nat.toDigits 16 g.toNat)

/-- Groups with colons between them. -/
def joined (groups : List UInt16) : String := ":".intercalate (groups.map groupText)

/-- The text of an IPv6 address in groups. -/
def groupsText (a : Ipv6) : String :=
  let (start, n) := longestRun 0 (0, 0) a.groups
  if n > 1 then joined (a.groups.take start) ++ "::" ++ joined (a.groups.drop (start + n))
  else joined a.groups

/-- The IPv4 address that an IPv6 address maps. -/
def mapped? (a : Ipv6) : Option Ipv4 :=
  match a.groups with
  | [0, 0, 0, 0, 0, 0xFFFF, g, h] =>
    some ⟨[UInt8.ofNat (g.toNat / 256), UInt8.ofNat g.toNat, UInt8.ofNat (h.toNat / 256),
      UInt8.ofNat h.toNat]⟩
  | _ => none

/-- The text of an IPv6 address; a mapped IPv4 address is written as such. -/
def text (a : Ipv6) : String :=
  match a.mapped? with
  | some v4 => "::ffff:" ++ v4.text
  | none => a.groupsText

end Ipv6

namespace Ip

/-- Reads an address of either kind. -/
def read? (s : List Char) : Option Ip :=
  match Ipv4.read? s with
  | some a => some (.v4 a)
  | none => v6 <$> Ipv6.read? s

end Ip

namespace SocketAddress

/-- Reads a port: decimal digits, at most 65535. -/
def port? (s : List Char) : Option UInt16 := do
  let n ← decimalValue? s
  if n < UInt16.size then some (UInt16.ofNat n) else none

/-- Reads a scope: decimal digits, below `2 ^ 32`. -/
def scope? (s : List Char) : Option UInt32 := do
  let n ← decimalValue? s
  if n < UInt32.size then some (UInt32.ofNat n) else none

/-- Cuts a text at the last colon. -/
def cutAtLastColon? (s : List Char) : Option (List Char × List Char) :=
  match s.reverse.span (· != ':') with
  | (_, []) => none
  | (port, _ :: host) => some (host.reverse, port.reverse)

/-- Reads an IPv6 address with an optional scope. -/
def scoped? (s : List Char) : Option (Ipv6 × UInt32) :=
  match s.span (· != '%') with
  | (address, []) => do return (← Ipv6.read? address, 0)
  | (address, _ :: scope) => do return (← Ipv6.read? address, ← scope? scope)

/-- Reads the text between brackets. -/
def bracketed? : List Char → Option (List Char)
  | '[' :: rest => if rest.getLast? = some ']' then some rest.dropLast else none
  | _ => none

/-- Reads a socket address. -/
def read? (s : String) : Option SocketAddress := do
  let (host, port) ← cutAtLastColon? s.toList
  let port ← port? port
  match bracketed? host with
  | some inner =>
    let (address, scope) ← scoped? inner
    return { ip := .v6 address, port, scope }
  | none =>
    let address ← Ipv4.read? host
    return { ip := .v4 address, port }

/-- The text of a socket address. -/
def text (a : SocketAddress) : String :=
  match a.ip with
  | .v4 address => address.text ++ ":" ++ toString a.port.toNat
  | .v6 address =>
    "[" ++ address.text ++ (if a.scope = 0 then "" else "%" ++ toString a.scope.toNat) ++ "]:" ++
      toString a.port.toNat

end SocketAddress

end SenderPolicy.Net
