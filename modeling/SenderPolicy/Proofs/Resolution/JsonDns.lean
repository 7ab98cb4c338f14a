/-
The JSON interface and the DNS protocol give the same TXT strings.

A response of the JSON interface conveys the answers of a message if it has an answer for each of
them, in the same order and with the same type code, and the data of a TXT record in presentation
format (`Resolution.JsonDns.Conveys`).  Nothing is said about the data of other records.

Both backends keep the TXT records only, join the octets of their character-strings and only then
read them as text.  So they agree on every text, also where a character is spread over two strings
or where the octets are no text at all.
-/
import Mathlib.Data.List.Forall2
import SenderPolicy.Dns.Message
import SenderPolicy.Proofs.Dns.Presentation
import SenderPolicy.Resolution.JsonDns

namespace SenderPolicy

namespace Resolution

namespace JsonDns

open Dns

/-- An answer of the JSON interface conveys a resource record. -/
structure Conveys (a : Answer) (r : Resource) : Prop where
  type_eq : a.type = r.recordType.code.toNat
  /-- A TXT record has character-strings, and the data present them. -/
  presents : r.recordType = .txt →
    ∃ strings, r.data = .txt strings ∧ CharacterString.Presents strings a.data

variable {a : Answer} {r : Resource} {answers : List Answer} {records : List Resource}

/-- A canonical type is known by its code. -/
lemma code_eq_txt_iff {t : RecordType} (h : t.IsCanonical) :
    t.code.toNat = RecordType.txt.code.toNat ↔ t = .txt := by
  constructor
  · intro hcode
    have hcode' : t.code = RecordType.txt.code := UInt16.toNat_inj.1 hcode
    calc t = RecordType.ofCode t.code := h.symm
      _ = RecordType.ofCode RecordType.txt.code := by rw [hcode']
      _ = .txt := by decide
  · rintro rfl
    rfl

/-- An answer is taken for a TXT record exactly if the record that it conveys is one. -/
lemma Conveys.type_beq_txt (h : Conveys a r) (hcanonical : r.recordType.IsCanonical) :
    (a.type == RecordType.txt.code.toNat) = (r.recordType == .txt) := by
  rw [h.type_eq, Bool.eq_iff_iff, beq_iff_eq, beq_iff_eq]
  exact code_eq_txt_iff hcanonical

/-- The text of a TXT record is that of the answer that conveys it. -/
lemma Conveys.text?_eq (h : Conveys a r) (htxt : r.recordType = .txt) :
    r.text? = some (CharacterString.ofPresentation a.data) := by
  obtain ⟨strings, hdata, hpresents⟩ := h.presents htxt
  rw [Resource.text?, hdata, hpresents.ofPresentation_eq]

lemma map_ofPresentation_eq (h : List.Forall₂ Conveys answers records)
    (hcanonical : ∀ r ∈ records, r.recordType.IsCanonical) :
    (answers.filter fun a => a.type == RecordType.txt.code.toNat).map
        (fun a => CharacterString.ofPresentation a.data) =
      (records.filter fun r => r.recordType == .txt).filterMap Resource.text? := by
  induction h with
  | nil => rfl
  | @cons a r answers records first _ ih =>
      obtain ⟨hr, hrecords⟩ := List.forall_mem_cons.1 hcanonical
      rw [List.filter_cons, List.filter_cons, first.type_beq_txt hr]
      by_cases htxt : r.recordType = .txt
      · have hkeep : (r.recordType == .txt) = true := beq_iff_eq.2 htxt
        rw [if_pos hkeep, if_pos hkeep, List.map_cons,
          List.filterMap_cons_some (first.text?_eq htxt), ih hrecords]
      · have hskip : ¬ (r.recordType == .txt) = true := fun hkeep => htxt (beq_iff_eq.1 hkeep)
        rw [if_neg hskip, if_neg hskip, ih hrecords]

/-- From a response without an error that conveys the answers of a message one gets the TXT strings
of the message. -/
theorem recordsOf_eq_txtRecords {m : Message}
    (hcanonical : ∀ r ∈ m.answers, r.recordType.IsCanonical)
    (h : List.Forall₂ Conveys answers m.answers) :
    recordsOf { status := 0, answers } = .ok m.txtRecords := by
  have hstatus : (0 : UInt8) = ResponseCode.noError := rfl
  rw [recordsOf, if_pos hstatus, map_ofPresentation_eq h hcanonical, Message.txtRecords]

/-! ### A response -/

section Sample

/-- A message with an alias, a text in which a character is spread over two strings, and octets
that are no text. -/
def spread : Message where
  answers :=
    [{ recordType := .cname, data := .raw [1, 0x61, 0] },
      { data := .txt [[0xC3], [0xA9, 0x22, 0x5C, 0x31]] },
      { data := .txt [[0xFF, 0x20], []] }]

/-- The answers of the JSON interface for it. -/
def spreadAnswers : List Answer :=
  [{ type := 5, data := "a." },
    { type := 16, data := "\"\\195\" \"\\169\\\"\\\\1\"" },
    { type := 16, data := "\"\\255 \" \"\"" }]

lemma conveys_spread : List.Forall₂ Conveys spreadAnswers spread.answers := by
  refine .cons ⟨rfl, fun h => absurd h (by decide)⟩ (.cons ⟨rfl, fun _ => ?_⟩
    (.cons ⟨rfl, fun _ => ?_⟩ .nil))
  · refine ⟨_, rfl, _, .cons ⟨_, .cons .decimal .nil, rfl⟩ (.cons ⟨_, .cons .decimal
      (.cons (.escaped (by decide)) (.cons (.escaped (by decide))
        (.cons (.itself (by decide) (by decide) (by decide)) .nil))), rfl⟩ .nil), ?_⟩
    decide +kernel
  · refine ⟨_, rfl, _, .cons ⟨_, .cons .decimal
      (.cons (.itself (by decide) (by decide) (by decide)) .nil), rfl⟩
        (.cons ⟨_, .nil, rfl⟩ .nil), ?_⟩
    decide +kernel

/-- The spread character is read as one, and the malformed octet is replaced. -/
theorem recordsOf_eq_txtRecords_spread :
    (∀ r ∈ spread.answers, r.recordType.IsCanonical) ∧
      List.Forall₂ Conveys spreadAnswers spread.answers ∧
      recordsOf { status := 0, answers := spreadAnswers } = .ok spread.txtRecords ∧
      spread.txtRecords = ["é\"\\1", "\uFFFD "] := by
  have hcanonical : ∀ r ∈ spread.answers, r.recordType.IsCanonical := by decide
  refine ⟨hcanonical, conveys_spread, recordsOf_eq_txtRecords hcanonical conveys_spread, ?_⟩
  decide +kernel

end Sample

end JsonDns

end Resolution

end SenderPolicy
