/-
Reading and writing the octets of DNS messages.

A reader takes what it reads from the front of a byte string and returns the rest.  Words are
written with the most significant octet first.
-/
namespace SenderPolicy.Dns

/-- What is wrong with a DNS message. -/
inductive WireError where
  | invalidHeader
  | invalidLabel
  | invalidQuestionSection
  | invalidAnswerSection
  | compressionLoop
  /-- The message ends before its last field does. -/
  | truncated
  deriving DecidableEq, Repr

/-- A wire error as one line of text. -/
def WireError.message : WireError → String
  | invalidHeader => "Invalid DNS header"
  | invalidLabel => "Invalid DNS label"
  | invalidQuestionSection => "Invalid question section"
  | invalidAnswerSection => "Invalid answer section"
  | compressionLoop => "DNS compression loop detected"
  | truncated => "Invalid bit stream: failed to fill whole buffer"

/-- Reads a value from the front of a byte string and returns the rest. -/
abbrev Reader (α : Type) := List UInt8 → Except WireError (α × List UInt8)

/-- Reads the given number of octets. -/
def readOctets (n : Nat) : Reader (List UInt8) := fun bytes =>
  if n ≤ bytes.length then .ok (bytes.take n, bytes.drop n) else .error .truncated

/-- Reads a word of two octets. -/
def readWord : Reader UInt16
  | a :: b :: rest => .ok (UInt16.ofNat (a.toNat * 256 + b.toNat), rest)
  | _ => .error .truncated

/-- Reads a word of four octets. -/
def readLong : Reader UInt32
  | a :: b :: c :: d :: rest =>
    .ok (UInt32.ofNat (((a.toNat * 256 + b.toNat) * 256 + c.toNat) * 256 + d.toNat), rest)
  | _ => .error .truncated

/-- Reads a value the given number of times. -/
def readMany {α : Type} (read : Reader α) : Nat → Reader (List α)
  | 0, bytes => .ok ([], bytes)
  | n + 1, bytes => do
    let (a, rest) ← read bytes
    let (as, rest) ← readMany read n rest
    return (a :: as, rest)

/-- Reads a value up to the given number of times, and stops where it cannot be read. -/
def readUpTo {α : Type} (read : Reader α) : Nat → List UInt8 → List α
  | 0, _ => []
  | n + 1, bytes =>
    match read bytes with
    | .ok (a, rest) => a :: readUpTo read n rest
    | .error _ => []

/-- The octets of a word of two octets. -/
def writeWord (w : UInt16) : List UInt8 :=
  [UInt8.ofNat (w.toNat / 256), UInt8.ofNat w.toNat]

/-- The octets of a word of four octets. -/
def writeLong (w : UInt32) : List UInt8 :=
  [UInt8.ofNat (w.toNat / 16777216), UInt8.ofNat (w.toNat / 65536), UInt8.ofNat (w.toNat / 256),
    UInt8.ofNat w.toNat]

end SenderPolicy.Dns
