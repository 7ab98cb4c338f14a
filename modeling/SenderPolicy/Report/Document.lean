/-
Reports as JSON documents.

A report is an object of seven fields, a term one of three, to which the report on the domain that
the term refers to is added if there is one.  Writing fixes the order of the fields; reading takes
them in any order.
-/
import SenderPolicy.Json.Decoder
import SenderPolicy.Json.Printer
import SenderPolicy.Report

namespace SenderPolicy

/-- The severity of a name. -/
def Severity.ofName? : String → Option Severity
  | "error" => some .error
  | "warning" => some .warning
  | _ => none

/-- The qualifier that a text of one character stands for. -/
def Qualifier.ofName? (s : String) : Option Qualifier :=
  match s.toList with
  | [c] => ofChar? c
  | _ => none

namespace Issue

/-- The document of an issue. -/
def toJson (i : Issue) : Json :=
  .object [.named "severity" (.string i.severity.name), .named "message" (.string i.message)]

/-- The fields of an issue that were met. -/
structure Draft where
  severity : Option Severity := none
  message : Option String := none

/-- How an issue is decoded. -/
def shape (depth : Nat) : Json.Shape Draft where
  fields := [("severity", false), ("message", false)]
  start := {}
  put draft name value :=
    match name with
    | "severity" =>
      return { draft with
        severity := ← Json.fill draft.severity (Json.decodeName Severity.ofName? depth value) }
    | "message" =>
      return { draft with message := ← Json.fill draft.message (Json.decodeString depth value) }
    | _ => .ok draft

/-- Decodes an issue. -/
def decode : Json.Decoder Issue :=
  Json.Shape.decode shape fun draft => do
    return { severity := ← Json.required draft.severity, message := ← Json.required draft.message }

end Issue

namespace Kind

/-- Decodes a kind from its name. -/
def decode : Json.Decoder Kind := fun depth j => ofName <$> Json.decodeString depth j

end Kind

namespace Term

/-- The members of a term. -/
def members (t : Term) : List Member :=
  [.named "type" (.string t.kind.name), .named "qualifier" (.string t.qualifier.toChar.toString),
    .named "value" (.string t.value)]

/-- The document of a term. -/
def toJson (t : Term) : Json := .object t.members

end Term

namespace Report

mutual

/-- The document of a report. -/
def toJson : Report → Json
  | node f es =>
    .object [
      .named "domain" (.string f.domain),
      .named "record" (.ofText? f.record),
      .named "version" (.ofText? f.version),
      .named "mechanisms" (.array (entriesToJson es)),
      .named "lookupCount" (.natural f.lookupCount.toNat),
      .named "issues" (.array (f.issues.map Issue.toJson)),
      .named "queryTimeMs" (.natural f.queryTimeMs.toNat)]

/-- The documents of entries. -/
def entriesToJson : List Entry → List Json
  | [] => []
  | e :: es => entryToJson e :: entriesToJson es

/-- The document of an entry. -/
def entryToJson : Entry → Json
  | .plain t => t.toJson
  | .expanded t r => .object (t.members ++ [.named "expanded" (toJson r)])

end

/-- The fields of a report that were met. -/
structure Draft where
  domain : Option String := none
  record : Option (Option String) := none
  version : Option (Option String) := none
  entries : Option (List Entry) := none
  lookupCount : Option Nat := none
  issues : Option (List Issue) := none
  queryTimeMs : Option Nat := none

/-- The report of the fields that were met.  A record and a version may be missing. -/
def Draft.finish (draft : Draft) : Except Json.Fault Report := do
  let finding : Finding := {
    domain := ← Json.required draft.domain
    record := draft.record.getD none
    version := draft.version.getD none
    lookupCount := UInt32.ofNat (← Json.required draft.lookupCount)
    issues := ← Json.required draft.issues
    queryTimeMs := UInt64.ofNat (← Json.required draft.queryTimeMs) }
  return .node finding (← Json.required draft.entries)

/-- How a report is decoded, given how its entries are. -/
def shape (entries : Json.Decoder (List Entry)) (depth : Nat) : Json.Shape Draft where
  fields := [("domain", false), ("record", false), ("version", false), ("mechanisms", false),
    ("lookupCount", false), ("issues", false), ("queryTimeMs", false)]
  start := {}
  put draft name value :=
    match name with
    | "domain" =>
      return { draft with domain := ← Json.fill draft.domain (Json.decodeString depth value) }
    | "record" =>
      return { draft with
        record := ← Json.fill draft.record (Json.decodeOption Json.decodeString depth value) }
    | "version" =>
      return { draft with
        version := ← Json.fill draft.version (Json.decodeOption Json.decodeString depth value) }
    | "mechanisms" =>
      return { draft with entries := ← Json.fill draft.entries (entries depth value) }
    | "lookupCount" =>
      return { draft with
        lookupCount := ← Json.fill draft.lookupCount (Json.decodeNatural UInt32.size depth value) }
    | "issues" =>
      return { draft with
        issues := ← Json.fill draft.issues (Json.decodeList Issue.decode depth value) }
    | "queryTimeMs" =>
      return { draft with
        queryTimeMs := ← Json.fill draft.queryTimeMs (Json.decodeNatural UInt64.size depth value) }
    | _ => .ok draft

end Report

namespace Entry

/-- The fields of an entry that were met. -/
structure Draft where
  kind : Option Kind := none
  qualifier : Option Qualifier := none
  value : Option String := none
  report : Option (Option Report) := none

/-- The entry of the fields that were met. -/
def Draft.finish (draft : Draft) : Except Json.Fault Entry := do
  let kind ← Json.required draft.kind
  let qualifier ← Json.required draft.qualifier
  let value ← Json.required draft.value
  return .of { qualifier, kind, value } (draft.report.getD none)

/-- How an entry is decoded, given how a report is. -/
def shape (report : Json.Decoder Report) (depth : Nat) : Json.Shape Draft where
  fields := [("type", false), ("qualifier", false), ("value", false), ("expanded", true)]
  start := {}
  put draft name value :=
    match name with
    | "type" => return { draft with kind := ← Json.fill draft.kind (Kind.decode depth value) }
    | "qualifier" =>
      return { draft with
        qualifier := ← Json.fill draft.qualifier
          (Json.decodeName Qualifier.ofName? depth value) }
    | "value" =>
      return { draft with value := ← Json.fill draft.value (Json.decodeString depth value) }
    | "expanded" =>
      return { draft with
        report := ← Json.fill draft.report (Json.decodeOption report depth value) }
    | _ => .ok draft

end Entry

namespace Report

/-- Decodes a report in which reports are nested less than the given number of times. -/
def decodeWithin : Nat → Json.Decoder Report
  | 0 => fun _ _ => .error .notJson
  | levels + 1 =>
    Json.Shape.decode
      (shape (Json.decodeList
        (Json.Shape.decode (Entry.shape (decodeWithin levels)) Entry.Draft.finish)))
      Draft.finish

/-- Decodes a report.  A report inside another one stands inside its brackets, so the depth of
brackets bounds the nesting of reports. -/
def decode : Json.Decoder Report := fun depth => decodeWithin (depth + 1) depth

end Report

namespace Entry

/-- Decodes an entry. -/
def decode : Json.Decoder Entry := Json.Shape.decode (shape Report.decode) Draft.finish

end Entry

end SenderPolicy
