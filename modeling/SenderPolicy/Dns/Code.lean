/-
The codes of DNS messages: record types, record classes and response codes.

A code without a name of its own is kept as it is.
-/
namespace SenderPolicy.Dns

/-- The type of a resource record. -/
inductive RecordType where
  | a
  | ns
  | cname
  | soa
  | mx
  | txt
  | aaaa
  | opt
  | unknown (code : UInt16)
  deriving DecidableEq, Repr

namespace RecordType

/-- The type of a code. -/
def ofCode (code : UInt16) : RecordType :=
  if code = 1 then a
  else if code = 2 then ns
  else if code = 5 then cname
  else if code = 6 then soa
  else if code = 15 then mx
  else if code = 16 then txt
  else if code = 28 then aaaa
  else if code = 41 then opt
  else unknown code

/-- The code of a type. -/
def code : RecordType → UInt16
  | a => 1
  | ns => 2
  | cname => 5
  | soa => 6
  | mx => 15
  | txt => 16
  | aaaa => 28
  | opt => 41
  | unknown code => code

/-- The name of a type. -/
def name : RecordType → String
  | a => "A"
  | ns => "NS"
  | cname => "CNAME"
  | soa => "SOA"
  | mx => "MX"
  | txt => "TXT"
  | aaaa => "AAAA"
  | opt => "OPT"
  | unknown code => "Unknown(" ++ toString code.toNat ++ ")"

/-- A type is canonical if it is the type of its own code. -/
def IsCanonical (t : RecordType) : Prop := ofCode t.code = t

instance (t : RecordType) : Decidable t.IsCanonical := inferInstanceAs (Decidable (_ = _))

@[simp] theorem code_ofCode (code : UInt16) : (ofCode code).code = code := by
  unfold ofCode
  repeat' split
  all_goals simp_all [RecordType.code]

end RecordType

/-- The class of a resource record. -/
inductive RecordClass where
  | internet
  | chaos
  | hesiod
  | unknown (code : UInt16)
  deriving DecidableEq, Repr

namespace RecordClass

/-- The class of a code. -/
def ofCode (code : UInt16) : RecordClass :=
  if code = 1 then internet
  else if code = 3 then chaos
  else if code = 4 then hesiod
  else unknown code

/-- The code of a class. -/
def code : RecordClass → UInt16
  | internet => 1
  | chaos => 3
  | hesiod => 4
  | unknown code => code

/-- The name of a class. -/
def name : RecordClass → String
  | internet => "IN"
  | chaos => "CH"
  | hesiod => "HS"
  | unknown code => "Unknown(" ++ toString code.toNat ++ ")"

/-- A class is canonical if it is the class of its own code. -/
def IsCanonical (c : RecordClass) : Prop := ofCode c.code = c

instance (c : RecordClass) : Decidable c.IsCanonical := inferInstanceAs (Decidable (_ = _))

@[simp] theorem code_ofCode (code : UInt16) : (ofCode code).code = code := by
  unfold ofCode
  repeat' split
  all_goals simp_all [RecordClass.code]

end RecordClass

namespace ResponseCode

/-- The response code of a message that answers the question. -/
def noError : UInt8 := 0

/-- The response code for a name that does not exist. -/
def nameError : UInt8 := 3

/-- What a response code says. -/
def describe (code : UInt8) : String :=
  if code = 0 then "No error"
  else if code = 1 then "Format error"
  else if code = 2 then "Server failure"
  else if code = 3 then "Non-existent domain"
  else if code = 4 then "Not implemented"
  else if code = 5 then "Query refused"
  else "Unknown error (code " ++ toString code.toNat ++ ")"

end ResponseCode

end SenderPolicy.Dns
