/-
How often a zone is asked for a domain.

A normalized domain is normalized already, and it is in lower case (`Domain.normalize_normalize`,
`Domain.lower_normalize`).  So the text under which a validation notes a domain, the one that it
asks for, the one under which a zone counts the question and the one that the report shows are the
same, however the domain was spelled.  A zone in use gives the answers of the zone and counts the
questions (`ServedZone.runState_resolve`); those of a validation are for the domains of its fetched
nodes, each for one of them (`Lookup.map_fst_eq_of_run_validate`), so every such domain is asked for
once and no other name is asked for.
-/
import SenderPolicy.Proofs.Lookup.Session
import SenderPolicy.Proofs.Lookup.Termination
import SenderPolicy.Proofs.Text.LowerCase
import SenderPolicy.Zone

namespace SenderPolicy

/-! ### Zones in use -/

namespace ServedZone

variable {α : Type}

/-- A zone in use answers like the zone, whatever it was asked before, and notes the names in lower
case. -/
lemma runState_resolve (i : Inquiry α) (s : ServedZone) :
    i.runState resolve s =
      (i.run s.zone.answer,
        { s with asked := ((i.queries s.zone.answer).map Text.lower).reverse ++ s.asked }) := by
  induction i generalizing s with
  | done a => rfl
  | ask domain next ih =>
      rw [Inquiry.runState]
      simp only [resolve, ih, Inquiry.run, Inquiry.queries, List.map_cons, List.reverse_cons,
        List.append_assoc, List.singleton_append]

/-- An inquiry to a zone that was not asked before has the run in which every name has the answer of
the zone, and all names that it asks for are noted. -/
lemma run_and_asked_of_runState {i : Inquiry α} {zone : Zone} {a : α} {served : ServedZone}
    (h : i.runState resolve { zone } = (a, served)) :
    Inquiry.Run i ((i.queries zone.answer).map fun name => (name, zone.answer name)) a ∧
      served.asked = ((i.queries zone.answer).map Text.lower).reverse := by
  rw [runState_resolve] at h
  obtain ⟨rfl, rfl⟩ := Prod.mk.inj h
  exact ⟨Inquiry.run_of_fixed zone.answer i, List.append_nil _⟩

end ServedZone

namespace Lookup

open Inquiry (Run)

/-- Validations of a domain and of its normalized form are the same. -/
lemma validate_normalize (domain : String) :
    validate (Domain.normalize domain) = validate domain := by
  rw [validate, validate, Domain.normalize_normalize]

/-! ### Fetched nodes -/

/-- The nodes of a report whose domains were fetched: its root, and the reports on the references
that were followed. -/
def fetchedNodes (report : Report) : List Report :=
  report :: (fetchedAmong (references report)).map Prod.snd

/-- The domains of the fetched nodes of a report. -/
def fetchedDomains (report : Report) : List String :=
  (fetchedNodes report).map fun n => n.finding.domain

lemma fetchedAt_eq (stops : List Stop) :
    fetchedAt stops =
      (fetchedAmong (stops.filterMap Stop.reference?)).map fun p => p.2.finding.domain := by
  rw [fetchedAt, fetchedAmong, List.filter_filterMap, List.map_filterMap]
  congr 1
  funext stop
  cases stop with
  | charge => rfl
  | reference t report =>
      by_cases hfate : fate t report = .fetched <;>
        simp [Stop.fetched?, Stop.reference?, Option.filter, hfate]

variable {domain x : String} {events : List (String × TxtAnswer)} {report : Report}

/-- The questions of a validation are for the domains of the fetched nodes, in their order. -/
lemma map_fst_eq_of_run_validate (h : Run (validate domain) events report) :
    events.map Prod.fst = fetchedDomains report := by
  obtain ⟨steps, r, ctx, hfetch, rfl, rfl⟩ := run_validate_iff.1 h
  cases hfetch with
  | @intro answer steps entries _ terms =>
      have hasked : asked steps =
          (fetchedAmong (referencesOfEntries entries)).map fun p => p.2.finding.domain := by
        rw [terms.replay.asked_eq, fetchedAt_eq, referencesOfEntries_eq]
      rw [questions_ask, List.map_cons, ← asked, hasked, fetchedDomains, fetchedNodes,
        List.map_cons, List.map_map, domain_verdict, Report.finding_node, domain_findingFor,
        references_eq_referencesOfEntries, entries_verdict, Report.entries_node]
      rfl

/-- The domains of the fetched nodes are normalized, so they are in lower case. -/
lemma lower_of_mem_fetchedDomains (h : Run (validate domain) events report)
    (hx : x ∈ fetchedDomains report) : Text.lower x = x := by
  rw [← map_fst_eq_of_run_validate h] at hx
  obtain ⟨steps, r, ctx, hfetch, rfl, rfl⟩ := run_validate_iff.1 h
  cases hfetch with
  | @intro answer steps entries _ terms =>
      rw [questions_ask, List.map_cons, ← asked, terms.asked_eq] at hx
      rcases List.mem_cons.1 hx with rfl | hx
      · exact Domain.lower_normalize domain
      · obtain ⟨p, -, rfl⟩ := List.mem_map.1 hx
        exact Domain.lower_normalize p.1.value

/-- No two fetched nodes have the same domain. -/
lemma nodup_fetchedDomains (h : Run (validate domain) events report) :
    (fetchedDomains report).Nodup := by
  obtain ⟨hnodup, -, -⟩ := questions_of_run_validate h
  rwa [map_fst_eq_of_run_validate h] at hnodup

/-! ### Questions to a zone -/

variable {zone : Zone} {served : ServedZone}

/-- A zone is asked for the domains of the fetched nodes. -/
lemma queries_eq_fetchedDomains
    (h : (validate domain).runState ServedZone.resolve { zone } = (report, served)) :
    (validate domain).queries zone.answer = fetchedDomains report := by
  obtain ⟨hrun, -⟩ := ServedZone.run_and_asked_of_runState h
  rw [← map_fst_eq_of_run_validate hrun, List.map_map]
  exact (List.map_id _).symm

/-- The zone counts one question for each of them. -/
lemma queryCount_eq
    (h : (validate domain).runState ServedZone.resolve { zone } = (report, served)) (key : String) :
    served.queryCount key = if Text.lower key ∈ fetchedDomains report then 1 else 0 := by
  obtain ⟨hrun, hasked⟩ := ServedZone.run_and_asked_of_runState h
  -- the names that are noted are in lower case, and so are those that are asked for
  have hlower : (fetchedDomains report).map Text.lower = fetchedDomains report :=
    (List.map_congr_left fun x hx => lower_of_mem_fetchedDomains hrun hx).trans (List.map_id _)
  rw [queries_eq_fetchedDomains h, hlower] at hasked
  rw [ServedZone.queryCount, hasked, List.count_reverse, (nodup_fetchedDomains hrun).count]

/-- Normalized domains are the keys by which domains are asked for, once each.

Normalizing or lower-casing a normalized domain changes nothing, so validating any text is
validating its normalized form, whatever the questions are answered.  A validation of any domain
asks a zone that was not asked before for the domains of the fetched nodes of its report.  These are
distinct texts; the zone has counted one question for each of them, and a name in any spelling was
asked for exactly if it is one of them in lower case. -/
theorem queryCount_of_validate (domain : String) :
    Domain.normalize (Domain.normalize domain) = Domain.normalize domain ∧
    Text.lower (Domain.normalize domain) = Domain.normalize domain ∧
    validate (Domain.normalize domain) = validate domain ∧
    ∀ zone report served,
      (validate domain).runState ServedZone.resolve { zone } = (report, served) →
      (validate domain).queries zone.answer = fetchedDomains report ∧
      (fetchedDomains report).Nodup ∧
      (∀ n ∈ fetchedNodes report, served.queryCount n.finding.domain = 1) ∧
      ∀ key, served.queryCount key = if Text.lower key ∈ fetchedDomains report then 1 else 0 := by
  refine ⟨Domain.normalize_normalize domain, Domain.lower_normalize domain,
    validate_normalize domain, fun zone report served h => ?_⟩
  obtain ⟨hrun, -⟩ := ServedZone.run_and_asked_of_runState h
  refine ⟨queries_eq_fetchedDomains h, nodup_fetchedDomains hrun, fun n hn => ?_, queryCount_eq h⟩
  have hmem : n.finding.domain ∈ fetchedDomains report := List.mem_map_of_mem hn
  rw [queryCount_eq h, lower_of_mem_fetchedDomains hrun hmem, if_pos hmem]

/-- A policy that names its own domain, a domain that differs from it in the form of a small sigma
only, and two spellings of a third domain. -/
def spelled : Zone :=
  Zone.addPolicy {} "ΑΣ" "v=spf1 include:ΑΣ include:ασ include:İ include:i\u0307 -all"

/-- The sigma of the validated domain becomes a final one, so the domain is not asked for again, the
one with an ordinary sigma is another one, and both spellings of the dotted letter are one domain.
With a blank before it the domain is a name that was not asked for. -/
theorem queryCount_of_validate_spelled :
    ∃ report served,
      (validate " ΑΣ\n").runState ServedZone.resolve { zone := spelled } = (report, served) ∧
      fetchedDomains report = ["ας", "ασ", "i\u0307"] ∧
      served.queryCount "ας" = 1 ∧ served.queryCount "ΑΣ" = 1 ∧ served.queryCount "ασ" = 1 ∧
      served.queryCount "İ" = 1 ∧ served.queryCount " ΑΣ" = 0 := by
  have hdomains : fetchedDomains
      ((validate " ΑΣ\n").runState ServedZone.resolve { zone := spelled }).1 =
        ["ας", "ασ", "i\u0307"] := by
    decide +kernel
  cases houtcome : (validate " ΑΣ\n").runState ServedZone.resolve { zone := spelled } with
  | mk report served =>
      rw [houtcome] at hdomains
      obtain ⟨-, -, -, hzone⟩ := queryCount_of_validate " ΑΣ\n"
      obtain ⟨-, -, -, hcount⟩ := hzone spelled report served houtcome
      refine ⟨report, served, rfl, hdomains, ?_⟩
      simp only [hcount, hdomains]
      decide +kernel

end Lookup

end SenderPolicy
