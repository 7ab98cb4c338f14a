/-
DNS messages.

A message has a header and four sections: questions, answers, authorities and additional records.
Writing gives the header the sizes that the sections have.  Reading fails where one of the first
three sections cannot be read; additional records are not needed to answer a question, so the
first one that cannot be read just ends them.
-/
import SenderPolicy.Dns.CharacterString
import SenderPolicy.Dns.Code
import SenderPolicy.Dns.Header
import SenderPolicy.Dns.Name

namespace SenderPolicy.Dns

/-- A question: what is asked about which name. -/
structure Question where
  labels : List String := []
  recordType : RecordType := .txt
  recordClass : RecordClass := .internet
  deriving DecidableEq, Repr

namespace Question

/-- The question for the records of a type that a domain has. -/
def ofDomain (domain : String) (recordType : RecordType) : Question :=
  { labels := Name.labels domain, recordType }

/-- The octets of a question. -/
def write (q : Question) : Except WireError (List UInt8) := do
  return (← Name.write q.labels) ++ writeWord q.recordType.code ++ writeWord q.recordClass.code

/-- Reads a question of the given message. -/
def read (message : List UInt8) : Reader Question := fun bytes => do
  let (labels, bytes) ← Name.read message bytes
  let (typeCode, bytes) ← readWord bytes
  let (classCode, bytes) ← readWord bytes
  return ({ labels, recordType := .ofCode typeCode, recordClass := .ofCode classCode }, bytes)

end Question

/-- The data of a resource record. -/
inductive RecordData where
  | empty
  /-- The character-strings of a TXT record. -/
  | txt (strings : List (List UInt8))
  | raw (bytes : List UInt8)
  deriving DecidableEq, Repr

namespace RecordData

/-- The octets of record data. -/
def write : RecordData → Except WireError (List UInt8)
  | empty => .ok []
  | txt strings => CharacterString.write strings
  | raw bytes => .ok bytes

/-- The data of a record of the given type with the given octets. -/
def ofOctets (recordType : RecordType) (bytes : List UInt8) : Except WireError RecordData :=
  match recordType, bytes with
  | .txt, bytes => txt <$> CharacterString.read bytes
  | _, [] => .ok empty
  | _, bytes => .ok (raw bytes)

end RecordData

/-- A resource record. -/
structure Resource where
  labels : List String := []
  recordType : RecordType := .txt
  recordClass : RecordClass := .internet
  /-- How many seconds the record may be kept. -/
  ttl : UInt32 := 0
  data : RecordData := .empty
  deriving DecidableEq, Repr

namespace Resource

/-- The TXT record of a domain with the given text, cut into character-strings. -/
def txt (domain : String) (ttl : UInt32) (text : String) : Resource :=
  { labels := Name.components domain, ttl
    data := .txt (CharacterString.chunks (Text.Utf8.encode text)) }

/-- The text of a record with TXT data. -/
def text? (r : Resource) : Option String :=
  match r.data with
  | .txt strings => some (CharacterString.join strings)
  | _ => none

/-- The octets of a record.  The length of its data is written modulo `2 ^ 16`. -/
def write (r : Resource) : Except WireError (List UInt8) := do
  let data ← r.data.write
  let labels ← Name.write r.labels
  return labels ++ writeWord r.recordType.code ++ writeWord r.recordClass.code ++ writeLong r.ttl ++
    writeWord (UInt16.ofNat data.length) ++ data

/-- Reads a record of the given message. -/
def read (message : List UInt8) : Reader Resource := fun bytes => do
  let (labels, bytes) ← Name.read message bytes
  let (typeCode, bytes) ← readWord bytes
  let (classCode, bytes) ← readWord bytes
  let (ttl, bytes) ← readLong bytes
  let (length, bytes) ← readWord bytes
  let (octets, bytes) ← readOctets length.toNat bytes
  let recordType := RecordType.ofCode typeCode
  let data ← RecordData.ofOctets recordType octets
  return ({ labels, recordType, recordClass := .ofCode classCode, ttl, data }, bytes)

end Resource

/-- A DNS message. -/
structure Message where
  header : Header := {}
  questions : List Question := []
  answers : List Resource := []
  authorities : List Resource := []
  additional : List Resource := []
  deriving DecidableEq, Repr

namespace Message

/-- The message that asks for the TXT records of a domain. -/
def txtQuery (id : UInt16) (domain : String) : Message :=
  { header := { id, flags := { recursionDesired := true }, questionCount := 1 }
    questions := [.ofDomain domain .txt] }

/-- The header of a message with the sizes that its sections have, modulo `2 ^ 16`. -/
def countedHeader (m : Message) : Header :=
  { m.header with
    questionCount := UInt16.ofNat m.questions.length
    answerCount := UInt16.ofNat m.answers.length
    authorityCount := UInt16.ofNat m.authorities.length
    additionalCount := UInt16.ofNat m.additional.length }

/-- The octets of a list of parts. -/
def writeAll {α : Type} (write : α → Except WireError (List UInt8)) (parts : List α) :
    Except WireError (List UInt8) := do
  return (← parts.mapM write).flatten

/-- The octets of a message. -/
def write (m : Message) : Except WireError (List UInt8) := do
  let questions ← writeAll Question.write m.questions
  let answers ← writeAll Resource.write m.answers
  let authorities ← writeAll Resource.write m.authorities
  let additional ← writeAll Resource.write m.additional
  return m.countedHeader.write ++ questions ++ answers ++ authorities ++ additional

/-- Reads the questions of a message; what is wrong with them is wrong with their section. -/
def readQuestions (message : List UInt8) (count : Nat) : Reader (List Question) := fun bytes =>
  match readMany (Question.read message) count bytes with
  | .ok result => .ok result
  | .error _ => .error .invalidQuestionSection

/-- Reads a message. -/
def read (message : List UInt8) : Except WireError Message :=
  if message.length < Header.size then .error .invalidHeader
  else do
    let (header, bytes) ← Header.read message
    let (questions, bytes) ← readQuestions message header.questionCount.toNat bytes
    let (answers, bytes) ← readMany (Resource.read message) header.answerCount.toNat bytes
    let (authorities, bytes) ← readMany (Resource.read message) header.authorityCount.toNat bytes
    let additional := readUpTo (Resource.read message) header.additionalCount.toNat bytes
    return { header, questions, answers, authorities, additional }

/-- The texts of the TXT records among the answers of a message, in order. -/
def txtRecords (m : Message) : List String :=
  (m.answers.filter fun r => r.recordType == .txt).filterMap Resource.text?

end Message

end SenderPolicy.Dns
