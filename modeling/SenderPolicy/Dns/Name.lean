/-
Domain names in DNS messages.

A name is written as its labels, each after an octet with its length, and ends with a zero octet.
Instead of its last labels a name may have a pointer, two octets with the two highest bits set, to
a place in the message from which the remaining labels are spelled in the same way.
-/
import SenderPolicy.Dns.Octets
import SenderPolicy.Text.Split
import SenderPolicy.Text.Utf8

namespace SenderPolicy.Dns.Name

open Text

/-- The greatest number of octets of a label. -/
def maxLabelLength : Nat := 63

/-- The greatest number of pointers that are followed from the place a first pointer leads to. -/
def maxHops : Nat := 16

/-- The components of a domain name in its written form, empty ones included. -/
def components (domain : String) : List String := fields (· == '.') domain

/-- The components of a domain name without the dots at its end. -/
def labels (domain : String) : List String :=
  (split (· == '.') (dropEndWhile (· == '.') domain.toList)).map String.ofList

/-- The octets of one label, after its length. -/
def writeLabel (label : String) : Except WireError (List UInt8) :=
  let bytes := Utf8.encode label
  if bytes.length > maxLabelLength then .error .invalidLabel
  else .ok (UInt8.ofNat bytes.length :: bytes)

/-- The octets of a name.  Empty labels are left out. -/
def write : List String → Except WireError (List UInt8)
  | [] => .ok [0]
  | label :: rest =>
    if label = "" then write rest
    else do
      let front ← writeLabel label
      return front ++ (← write rest)

/-- How a run of labels ends. -/
inductive Ending where
  /-- With the zero octet; the rest follows it. -/
  | root (rest : List UInt8)
  /-- With the first octet of a pointer; the rest follows that octet. -/
  | pointer (high : UInt8) (rest : List UInt8)
  deriving DecidableEq, Repr

/-- Whether an octet starts a pointer. -/
def isPointer (b : UInt8) : Bool := b ≥ 0xC0

/-- The labels at the start of a byte string up to the zero octet or a pointer, for labels of at
most `limit` octets.  A label that the byte string does not hold in full is given the error
`short`. -/
def spell (limit : Nat) (short : WireError) (bytes : List UInt8) :
    Except WireError (List String × Ending) :=
  match bytes with
  | [] => .error short
  | n :: rest =>
    if n = 0 then .ok ([], .root rest)
    else if isPointer n then .ok ([], .pointer n rest)
    else if n.toNat > limit then .error .invalidLabel
    else if rest.length < n.toNat then .error short
    else match Utf8.decode? (rest.take n.toNat) with
      | none => .error .invalidLabel
      | some label => do
        let (labels, ending) ← spell limit short (rest.drop n.toNat)
        return (label :: labels, ending)
termination_by bytes.length
decreasing_by simp only [List.length_drop, List.length_cons]; omega

/-- The place in the message that the two octets of a pointer name. -/
def target (high low : UInt8) : Nat := high.toNat % 64 * 256 + low.toNat

/-- The labels spelled from a place in a message, following at most the given number of pointers.
Here an octet that starts no pointer is the length of a label whatever its value. -/
def labelsAt (message : List UInt8) (hops offset : Nat) : Except WireError (List String) := do
  match ← spell 0xBF .invalidLabel (message.drop offset) with
  | (labels, .root _) => return labels
  | (labels, .pointer high rest) =>
    match hops with
    | 0 => .error .compressionLoop
    | hops + 1 =>
      match rest with
      | [] => .error .invalidLabel
      | low :: _ => return labels ++ (← labelsAt message hops (target high low))

/-- Reads a name of the given message. -/
def read (message : List UInt8) : Reader (List String) := fun bytes => do
  match ← spell maxLabelLength .truncated bytes with
  | (labels, .root rest) => return (labels, rest)
  | (_, .pointer _ []) => .error .truncated
  | (labels, .pointer high (low :: rest)) =>
    return (labels ++ (← labelsAt message maxHops (target high low)), rest)

end SenderPolicy.Dns.Name
