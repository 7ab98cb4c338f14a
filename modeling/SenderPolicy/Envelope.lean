/-
Envelopes: what answers a request.

An envelope says whether the request was carried out.  If so it holds the report, and otherwise
the error.  A domain without a usable policy is no failure of the request.
-/
import SenderPolicy.Report.Document
import SenderPolicy.Request

namespace SenderPolicy

/-- The answer to a request. -/
structure Envelope where
  success : Bool
  result : Option Report := none
  error : Option String := none

namespace Envelope

/-- The answer to a request that was carried out. -/
def ok (r : Report) : Envelope := { success := true, result := some r }

/-- The answer to a request that was not carried out. -/
def failure (e : RequestError) : Envelope := { success := false, error := some e.message }

/-- The document of an envelope; what is missing is left out. -/
def toJson (e : Envelope) : Json :=
  .object (.named "success" (.bool e.success) ::
    ((e.result.map fun r => Member.named "result" r.toJson).toList ++
      (e.error.map fun m => Member.named "error" (.string m)).toList))

/-- The fields of an envelope that were met. -/
structure Draft where
  success : Option Bool := none
  result : Option (Option Report) := none
  error : Option (Option String) := none

/-- How an envelope is decoded. -/
def shape (depth : Nat) : Json.Shape Draft where
  fields := [("success", false), ("result", true), ("error", true)]
  start := {}
  put draft name value :=
    match name with
    | "success" =>
      return { draft with success := ← Json.fill draft.success (Json.decodeBool depth value) }
    | "result" =>
      return { draft with
        result := ← Json.fill draft.result (Json.decodeOption Report.decode depth value) }
    | "error" =>
      return { draft with
        error := ← Json.fill draft.error (Json.decodeOption Json.decodeString depth value) }
    | _ => .ok draft

/-- Decodes an envelope. -/
def decode : Json.Decoder Envelope :=
  Json.Shape.decode shape fun draft => do
    return {
      success := ← Json.required draft.success
      result := draft.result.getD none
      error := draft.error.getD none }

end Envelope

end SenderPolicy
