/-
The reports of validations survive being written down.

The kind of every term of a report that a validation makes is the kind of some name, so the report
is canonical.  A reference is followed only as long as lookups remain, and fewer of them remain
below it than above, so the reports that stand one inside the other are at most two more than the
lookups that remain: one for the domain itself and one for a reference that is not followed
(`Lookup.Traversal.height_le`).  Hence the documents of all these reports are nested far less deeply
than reading allows, and the times that the clock adds to a report change nothing of that.
-/
import SenderPolicy.Proofs.Lookup.Traversal
import SenderPolicy.Proofs.Report.Document

namespace SenderPolicy

namespace Record

lemma isCanonical_of_mem_terms {record : String} {t : Term} (h : t ∈ (read record).terms) :
    t.kind.IsCanonical := by
  have hterms : ∀ first tokens, t ∈ (readTokens first tokens).terms → t.kind.IsCanonical := by
    intro first tokens ht
    rw [readTokens] at ht
    split at ht
    · obtain ⟨token, -, rfl⟩ := List.mem_map.1 ht
      exact Kind.isCanonical_ofName _
    · cases ht
  rw [read] at h
  split at h
  · exact hterms _ _ h
  · exact hterms _ _ h

end Record

namespace Lookup

variable {ts : List Term} {ctx ctx' : Context} {steps : List Step} {entries : List Entry}
  {domain : String} {report : Report}

lemma isCanonical_of_mem_termsOf {answer : TxtAnswer} {t : Term} (h : t ∈ termsOf answer) :
    t.kind.IsCanonical := by
  rw [termsOf] at h
  split at h
  · cases h
  · exact Record.isCanonical_of_mem_terms h

lemma isCanonical_failed (domain : String) (count : UInt32) (message : String) :
    (Report.failed domain count message).IsCanonical :=
  Report.isCanonical_node_iff.2 nofun

/-- The entries of canonical terms are canonical, and so is all that stands below them. -/
lemma Traversal.isCanonical (h : Traversal ts ctx steps entries ctx')
    (hts : ∀ t ∈ ts, t.kind.IsCanonical) : ∀ e ∈ entries, e.IsCanonical := by
  induction h with
  | nil => simp
  | free _ _ _ ih | charged _ _ _ ih =>
      rw [List.forall_mem_cons] at hts ⊢
      exact ⟨⟨hts.1, nofun⟩, ih hts.2⟩
  | missing _ _ _ ih | circular _ _ _ _ ih | overLimit _ _ _ _ _ ih =>
      rw [List.forall_mem_cons] at hts ⊢
      refine ⟨⟨hts.1, ?_⟩, ih hts.2⟩
      rintro _ ⟨⟩
      exact isCanonical_failed _ _ _
  | followed _ _ _ _ _ _ ihterms ih =>
      rw [List.forall_mem_cons] at hts ⊢
      refine ⟨⟨hts.1, ?_⟩, ih hts.2⟩
      rintro _ ⟨⟩
      exact Report.isCanonical_node_iff.2 (ihterms fun t => isCanonical_of_mem_termsOf)

/-- Below an entry stand no more reports one inside the other than lookups remain, and one for a
reference that is not followed. -/
lemma Traversal.height_le (h : Traversal ts ctx steps entries ctx') :
    Report.heightOfEntries entries ≤ ctx.remaining + 1 := by
  induction h with
  | nil => exact Nat.zero_le _
  | free _ _ _ ih =>
      rw [Report.heightOfEntries]
      exact Nat.max_le.2 ⟨Nat.zero_le _, ih⟩
  | @charged _ _ ctx _ _ _ _ _ _ ih =>
      have hle := (Context.Extends.charge ctx).remaining_le
      rw [Report.heightOfEntries]
      exact Nat.max_le.2 ⟨Nat.zero_le _, by omega⟩
  | missing _ _ _ ih | circular _ _ _ _ ih =>
      rw [Report.heightOfEntries]
      exact Nat.max_le.2 ⟨Nat.succ_le_succ (Nat.zero_le _), ih⟩
  | @overLimit _ _ ctx _ _ _ _ _ _ _ _ ih =>
      have hle := (Context.Extends.charge ctx).remaining_le
      rw [Report.heightOfEntries]
      exact Nat.max_le.2 ⟨Nat.succ_le_succ (Nat.zero_le _), by omega⟩
  | @followed t _ ctx _ _ _ _ _ _ _ _ _ _ hlimit terms _ ihterms ih =>
      have hlt := Context.remaining_charge_mark_lt (target t) hlimit
      have hle := (((Context.Extends.charge ctx).trans (.mark _ (target t))).trans
        terms.extends_context).remaining_le
      rw [Report.heightOfEntries, Report.heightOfEntry, Report.height]
      exact Nat.max_le.2 ⟨by omega, by omega⟩

/-- A report of a validation is canonical, and so are its levels bounded by the budget. -/
lemma isCanonical_and_height_le_of_run {events : List (String × TxtAnswer)}
    (h : Inquiry.Run (validate domain) events report) :
    report.IsCanonical ∧ report.height ≤ maxLookups + 2 := by
  obtain ⟨steps, r, ctx, hfetch, -, rfl⟩ := run_validate_iff.1 h
  cases hfetch with
  | @intro answer _ entries _ terms =>
      have hcanonical := terms.isCanonical fun t => isCanonical_of_mem_termsOf
      have hheight := terms.height_le
      have hremaining : (Context.empty.mark (Domain.normalize domain)).remaining = maxLookups := by
        rw [Context.remaining, Context.count_mark]
        rfl
      rw [hremaining] at hheight
      have hroot : (verdict (.node (findingFor (Domain.normalize domain) answer ctx.lookupCount)
          entries) ctx).entries = entries := entries_verdict _ _
      generalize verdict _ ctx = report at hroot
      obtain ⟨f, es⟩ := report
      obtain rfl : es = entries := hroot
      exact ⟨Report.isCanonical_node_iff.2 hcanonical, Nat.succ_le_succ hheight⟩

end Lookup

namespace Report

open Json (ReadsAs decodeText maxDepth)

/-- A report that differs from that of a validation in its times at most is canonical, and its
document is nested far less deeply than reading allows. -/
lemma isCanonical_and_nesting_le_of_run {domain : String} {events : List (String × TxtAnswer)}
    {report r : Report} (hrun : Inquiry.Run (validate domain) events report)
    (htiming : r.withoutTiming = report.withoutTiming) :
    r.IsCanonical ∧ r.toJson.nesting ≤ 36 := by
  obtain ⟨hcanonical, hheight⟩ := Lookup.isCanonical_and_height_le_of_run hrun
  -- neither the kinds nor the levels of a report depend on its times
  have hgood : r.IsCanonical := by
    rw [← isCanonical_map, ← withoutTiming, htiming, withoutTiming, isCanonical_map]
    exact hcanonical
  have hsame : r.height = report.height := by
    rw [← height_map, ← withoutTiming, htiming, withoutTiming, height_map]
  have hle := nesting_toJson_le r
  simp only [maxLookups] at hheight
  exact ⟨hgood, by omega⟩

/-- The envelope around such a report is read again. -/
lemma readsAs_envelope_of_run {domain : String} {events : List (String × TxtAnswer)}
    {report r : Report} (hrun : Inquiry.Run (validate domain) events report)
    (htiming : r.withoutTiming = report.withoutTiming) :
    (Envelope.ok r).toJson.nesting ≤ 37 ∧
      ReadsAs Envelope.decode (Envelope.ok r).toJson (.ok r) := by
  obtain ⟨hgood, hnesting⟩ := isCanonical_and_nesting_le_of_run hrun htiming
  have hok : (Envelope.ok r).toJson.nesting ≤ 37 := by
    rw [Envelope.nesting_toJson]
    exact Nat.succ_le_succ hnesting
  have hcanonical : (Envelope.ok r).IsCanonical := by
    rintro _ ⟨⟩
    exact hgood
  exact ⟨hok, (Envelope.reverses_decode _).readsAs (Envelope.isComplete_toJson _) hcanonical
    (Nat.le_trans hok (by decide))⟩

/-- Reports and envelopes survive being written as JSON, in the compact and in the indented form.

This holds if the kinds are canonical and the document is nested no deeper than reading allows.
Every report of a validation is of that kind, whatever its questions are answered and whatever time
they take, and so is the envelope around it; and so is every report that was read from any text,
however that text was written. -/
theorem readsAs_toJson :
    (∀ r : Report, r.IsCanonical → r.toJson.nesting ≤ maxDepth → ReadsAs decode r.toJson r) ∧
    (∀ e : Envelope, e.IsCanonical → e.toJson.nesting ≤ maxDepth →
      ReadsAs Envelope.decode e.toJson e) ∧
    (∀ domain events report r, Inquiry.Run (validate domain) events report →
      r.withoutTiming = report.withoutTiming →
      r.IsCanonical ∧ (Envelope.ok r).toJson.nesting ≤ 37 ∧ ReadsAs decode r.toJson r ∧
        ReadsAs Envelope.decode (Envelope.ok r).toJson (.ok r)) ∧
    (∀ text r, decodeText decode text = .ok r → ReadsAs decode r.toJson r) := by
  have hreport : ∀ r : Report, r.IsCanonical → r.toJson.nesting ≤ maxDepth →
      ReadsAs decode r.toJson r := fun r hgood hnesting =>
    (reverses_decode _).readsAs r.isComplete_toJson hgood hnesting
  have henvelope : ∀ e : Envelope, e.IsCanonical → e.toJson.nesting ≤ maxDepth →
      ReadsAs Envelope.decode e.toJson e := fun e hgood hnesting =>
    (Envelope.reverses_decode _).readsAs e.isComplete_toJson hgood hnesting
  refine ⟨hreport, henvelope, fun domain events report r hrun htiming => ?_, fun text r htext =>
    (reverses_decode _).readsAs_of_decodeText r.isComplete_toJson htext⟩
  obtain ⟨hgood, hnesting⟩ := isCanonical_and_nesting_le_of_run hrun htiming
  obtain ⟨hok, hreads⟩ := readsAs_envelope_of_run hrun htiming
  have hmax : 36 ≤ maxDepth := by decide
  exact ⟨hgood, hok, hreport r hgood (Nat.le_trans hnesting hmax), hreads⟩

/-- A report with texts that must be escaped, numbers at their bounds and a kind of another
name. -/
def peculiar : Report :=
  .node
    { domain := "a\"\\\n\u0001", record := none, version := some "", lookupCount := 4294967295
      issues := [.warning "\u007f"], queryTimeMs := 18446744073709551615 }
    [.plain ⟨.softFail, .unknown "x/y", "é"⟩,
      .expanded ⟨.neutral, .inclusion, ""⟩ (.failed "" 0 "𝄞")]

/-- The fields of a report in an array, with the name of a kind in upper case and an object for the
qualifier. -/
def listed : String :=
  "[ \"d\", null, null, [ [\"INCLUDE\", \x7b\"~\": null\x7d, \"e\"] ], 1, [], 0 ]"

/-- A report with peculiar texts, the report of a validation and a report in an array survive. -/
theorem readsAs_toJson_peculiar :
    peculiar.IsCanonical ∧ peculiar.toJson.nesting ≤ maxDepth ∧
      ReadsAs decode peculiar.toJson peculiar ∧
      ReadsAs Envelope.decode (Envelope.ok peculiar).toJson (.ok peculiar) ∧
      (∃ r, Inquiry.Run (validate "B") [("b", Lookup.ring "b"), ("c", Lookup.ring "c")] r ∧
        ReadsAs decode r.toJson r) ∧
      ∃ r, decodeText decode listed = .ok r ∧ ReadsAs decode r.toJson r := by
  have hcanonical : peculiar.IsCanonical := by decide +kernel
  have hnesting : peculiar.toJson.nesting ≤ maxDepth := by decide +kernel
  have henvelope : (Envelope.ok peculiar).toJson.nesting ≤ maxDepth := by decide +kernel
  have hok : (Envelope.ok peculiar).IsCanonical := by
    rintro _ ⟨⟩
    exact hcanonical
  obtain ⟨hreport, hwhole, hvalidated, hread⟩ := readsAs_toJson
  refine ⟨hcanonical, hnesting, hreport _ hcanonical hnesting, hwhole _ hok henvelope, ?_, ?_⟩
  · have hrun := Inquiry.run_of_fixed Lookup.ring (validate "B")
    have hqueries : (validate "B").queries Lookup.ring = ["b", "c"] := by decide +kernel
    rw [hqueries] at hrun
    obtain ⟨-, -, hreads, -⟩ := hvalidated _ _ _ _ hrun rfl
    exact ⟨_, hrun, hreads⟩
  · have hsome : (decodeText decode listed).toOption.isSome = true := by decide +kernel
    cases hlisted : decodeText decode listed with
    | error fault =>
        rw [hlisted] at hsome
        cases hsome
    | ok r => exact ⟨r, rfl, hread _ _ hlisted⟩

end Report

end SenderPolicy
