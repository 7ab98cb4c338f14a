/-
The header of a DNS message: an identifier, a word of flags and the sizes of the four sections.
-/
import SenderPolicy.Dns.Octets

namespace SenderPolicy.Dns

/-- The flags of a message. -/
structure Flags where
  /-- The message is a response. -/
  response : Bool := false
  opcode : UInt8 := 0
  /-- The server is an authority for the name. -/
  authoritative : Bool := false
  /-- The message was cut short. -/
  truncated : Bool := false
  recursionDesired : Bool := false
  recursionAvailable : Bool := false
  reserved : UInt8 := 0
  responseCode : UInt8 := 0
  deriving DecidableEq, Repr

namespace Flags

/-- The value of one bit. -/
def bit (b : Bool) (weight : Nat) : Nat := if b then weight else 0

/-- The word of the flags.  Of the fields that are numbers it has the lowest bits only: four of the
opcode and the response code, three of the reserved field. -/
def toWord (f : Flags) : UInt16 :=
  UInt16.ofNat (bit f.response 32768 + f.opcode.toNat % 16 * 2048 + bit f.authoritative 1024 +
    bit f.truncated 512 + bit f.recursionDesired 256 + bit f.recursionAvailable 128 +
    f.reserved.toNat % 8 * 16 + f.responseCode.toNat % 16)

/-- The flags of a word. -/
def ofWord (w : UInt16) : Flags :=
  let n := w.toNat
  { response := n / 32768 % 2 = 1
    opcode := UInt8.ofNat (n / 2048 % 16)
    authoritative := n / 1024 % 2 = 1
    truncated := n / 512 % 2 = 1
    recursionDesired := n / 256 % 2 = 1
    recursionAvailable := n / 128 % 2 = 1
    reserved := UInt8.ofNat (n / 16 % 8)
    responseCode := UInt8.ofNat (n % 16) }

end Flags

/-- The header of a message. -/
structure Header where
  id : UInt16 := 0
  flags : Flags := {}
  questionCount : UInt16 := 0
  answerCount : UInt16 := 0
  authorityCount : UInt16 := 0
  additionalCount : UInt16 := 0
  deriving DecidableEq, Repr

namespace Header

/-- The number of octets of a header. -/
def size : Nat := 12

/-- The octets of a header. -/
def write (h : Header) : List UInt8 :=
  writeWord h.id ++ writeWord h.flags.toWord ++ writeWord h.questionCount ++
    writeWord h.answerCount ++ writeWord h.authorityCount ++ writeWord h.additionalCount

/-- Reads a header. -/
def read : Reader Header := fun bytes => do
  let (id, bytes) ← readWord bytes
  let (flags, bytes) ← readWord bytes
  let (questionCount, bytes) ← readWord bytes
  let (answerCount, bytes) ← readWord bytes
  let (authorityCount, bytes) ← readWord bytes
  let (additionalCount, bytes) ← readWord bytes
  return ({ id, flags := .ofWord flags, questionCount, answerCount, authorityCount,
            additionalCount }, bytes)

end Header

end SenderPolicy.Dns
