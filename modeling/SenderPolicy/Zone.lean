/-
Zones: TXT records kept in a table.

Names are compared in lower case.  A name can be made to fail, which wins over its records; a
name that is not in the table has no records, or fails if the zone has an error for such names.
A zone in use notes every name that it was asked for.
-/
import SenderPolicy.LookupError
import SenderPolicy.Text.LowerCase

namespace SenderPolicy

/-- TXT records by name.  In each list of pairs the first one of a name counts. -/
structure Zone where
  records : List (String × List String) := []
  failures : List (String × LookupError) := []
  /-- The answer for a name that is not in the table, if it is not the empty list. -/
  defaultError : Option LookupError := none
  deriving DecidableEq, Repr

namespace Zone

/-- Replaces the records of a name. -/
def add (z : Zone) (name : String) (records : List String) : Zone :=
  { z with records := (Text.lower name, records) :: z.records }

/-- Replaces the records of a name by a single one. -/
def addPolicy (z : Zone) (name record : String) : Zone := z.add name [record]

/-- Makes a name fail. -/
def fail (z : Zone) (name : String) (e : LookupError) : Zone :=
  { z with failures := (Text.lower name, e) :: z.failures }

/-- The answer for a name. -/
def answer (z : Zone) (name : String) : TxtAnswer :=
  let key := Text.lower name
  match z.failures.lookup key with
  | some e => .error e
  | none =>
    match z.records.lookup key, z.defaultError with
    | some records, _ => .ok records
    | none, some e => .error e
    | none, none => .ok []

end Zone

/-- A zone in use, with the names that it was asked for, the latest first and in lower case. -/
structure ServedZone where
  zone : Zone := {}
  asked : List String := []
  deriving DecidableEq, Repr

namespace ServedZone

/-- Answers a question and notes it. -/
def resolve (name : String) (s : ServedZone) : TxtAnswer × ServedZone :=
  (s.zone.answer name, { s with asked := Text.lower name :: s.asked })

/-- How often a name was asked for. -/
def queryCount (s : ServedZone) (name : String) : Nat := s.asked.count (Text.lower name)

/-- How many questions were asked. -/
def totalQueries (s : ServedZone) : Nat := s.asked.length

end ServedZone

end SenderPolicy
