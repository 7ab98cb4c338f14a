/-
What the nodes of a report show.

A node of a report is made from the answer for its domain, or it says in one error why there is
no policy to show.  In the first case it shows the first policy of the answer with all its terms,
and the issues in a fixed order: that there are other policies, what reading the policy finds, and
what the rules find.  The root has one more if the whole validation took too many lookups.  Terms
that refer to another domain carry the report on that domain.

`Lookup.Faithful` says all this of one node, given the questions of the run with their answers.
It holds of a node as soon as its entries go with the terms of the answer
(`Lookup.faithful_findingFor`), and every traversal sees to that.
-/
import SenderPolicy.Proofs.Lookup.Expansion
import SenderPolicy.Proofs.Lookup.Reference
import SenderPolicy.Proofs.Lookup.Session
import SenderPolicy.Proofs.Record.Policy

namespace SenderPolicy

namespace Lookup

open Inquiry (Run)

/-- An entry carries a report exactly if its term refers to a domain, and then the report is on
that domain. -/
structure Attached (entry : Entry) : Prop where
  isSome_iff : entry.report?.isSome = true ↔
    entry.term.kind = .inclusion ∨ entry.term.kind = .redirect
  domain_eq : ∀ report, entry.report? = some report →
    report.finding.domain = Domain.normalize entry.term.value

/-- A node that shows no policy but one error. -/
structure Blank (n : Report) : Prop where
  record_eq : n.finding.record = none
  version_eq : n.finding.version = none
  entries_eq : n.entries = []
  issues_eq : ∃ message, n.finding.issues = [.error message]

/-- The issue that an answer has more than one policy. -/
def severalIssue (txt : List String) : List Issue :=
  if 1 < txt.countP Record.isPolicy then
    [.error (severalPolicies (txt.countP Record.isPolicy))]
  else []

/-- A node that shows the first policy of an answer.  Its issues end with those in `last`. -/
structure Shows (txt : List String) (record : String) (last : List Issue) (n : Report) :
    Prop where
  first : txt.find? Record.isPolicy = some record
  record_eq : n.finding.record = some record
  version_isSome : n.finding.version.isSome = true
  version_eq : n.finding.version = (Record.read record).version
  terms_eq : n.entries.map Entry.term = (Record.read record).terms
  issues_eq : n.finding.issues = severalIssue txt ++ (Record.read record).issues ++
    Rules.check record (Record.read record).terms ++ last

/-- A node is faithful to the answers of a run if it shows the policy that was answered for its
domain, or none and the reason. -/
structure Faithful (events : List (String × TxtAnswer)) (last : List Issue) (n : Report) :
    Prop where
  blank_or_shows : Blank n ∨ ∃ txt record, (n.finding.domain, .ok txt) ∈ events ∧
    Shows txt record last n
  attached : ∀ entry ∈ n.entries, Attached entry

/-- The issue at the root of a validation that took too many lookups. -/
def limitIssue (count : Nat) : List Issue :=
  if maxLookups < count then [.error (tooMany count)] else []

/-! ### Nodes -/

variable {events : List (String × TxtAnswer)} {domain message : String} {answer : TxtAnswer}
  {count : UInt32} {entries : List Entry} {last : List Issue} {t : Term}

lemma isReference_iff (k : Kind) : k.isReference = true ↔ k = .inclusion ∨ k = .redirect := by
  cases k <;> simp [Kind.isReference]

lemma attached_plain (h : t.kind.isReference = false) : Attached (.plain t) where
  isSome_iff := by
    rw [← isReference_iff]
    simp [Entry.report?, Entry.term, h]
  domain_eq := by
    intro report hreport
    cases hreport

lemma attached_expanded {report : Report} (h : t.kind.isReference = true)
    (hdomain : report.finding.domain = target t) : Attached (.expanded t report) where
  isSome_iff := by
    rw [← isReference_iff]
    simp [Entry.report?, Entry.term, h]
  domain_eq := by
    intro report' hreport
    cases hreport
    exact hdomain

lemma blank_failed (domain : String) (count : UInt32) (message : String) :
    Blank (.failed domain count message) where
  record_eq := rfl
  version_eq := rfl
  entries_eq := rfl
  issues_eq := ⟨message, rfl⟩

/-- A report on a reference that was not followed is faithful whatever the answers are. -/
lemma faithful_failed (events : List (String × TxtAnswer)) (last : List Issue) (domain : String)
    (count : UInt32) (message : String) :
    Faithful events last (.failed domain count message) where
  blank_or_shows := Or.inl (blank_failed domain count message)
  attached := by simp [Report.failed]

lemma severalIssue_eq {txt : List String} {record : String} {others : List String}
    (h : policies txt = record :: others) :
    severalIssue txt =
      if others = [] then [] else [.error (severalPolicies (others.length + 1))] := by
  have hcount : txt.countP Record.isPolicy = others.length + 1 := by
    rw [List.countP_eq_length_filter, ← policies, h, List.length_cons]
  rw [severalIssue, hcount]
  cases others with
  | nil => rfl
  | cons other others => rw [if_pos (by simp), if_neg (by simp)]

/-- A node on an answer is faithful if its entries go with the terms of the answer. -/
lemma faithful_findingFor (hmem : (domain, answer) ∈ events)
    (hterms : entries.map Entry.term = termsOf answer)
    (hattached : ∀ entry ∈ entries, Attached entry) :
    Faithful events [] (.node (findingFor domain answer count) entries) := by
  refine ⟨?_, hattached⟩
  rcases policyOfAnswer_cases answer with
    ⟨message, herror, -⟩ | ⟨txt, record, others, rfl, hpolicies, hok⟩
  · left
    rw [termsOf_of_error herror, List.map_eq_nil_iff] at hterms
    rw [hterms, findingFor, herror]
    exact blank_failed domain count message
  · right
    have hhead : record ∈ policies txt := by
      rw [hpolicies]
      exact List.mem_cons_self
    have hpolicy : Record.isPolicy record = true := (List.mem_filter.1 hhead).2
    rw [termsOf_of_ok hok] at hterms
    refine ⟨txt, record, by rwa [Report.finding_node, domain_findingFor], ?_⟩
    rw [findingFor, hok]
    exact
      { first := by rw [← List.head?_filter, ← policies, hpolicies, List.head?_cons]
        record_eq := rfl
        version_isSome := (Record.read_of_isPolicy hpolicy).1
        version_eq := rfl
        terms_eq := hterms
        issues_eq := by
          rw [severalIssue_eq hpolicies, List.append_nil]
          rfl }

/-- One more issue at the end of those that a node shows. -/
lemma Shows.addIssue {txt : List String} {record : String} {n : Report}
    (h : Shows txt record [] n) (i : Issue) : Shows txt record [i] (n.addIssue i) where
  first := h.first
  record_eq := h.record_eq
  version_isSome := h.version_isSome
  version_eq := h.version_eq
  terms_eq := h.terms_eq
  issues_eq := by
    rw [Report.addIssue, Report.finding_node, h.issues_eq, List.append_nil]

/-! ### Traversals -/

namespace Traversal

variable {ts : List Term} {ctx ctx' : Context} {steps : List Step}

/-- A traversal makes one entry for each term. -/
lemma map_term (h : Traversal ts ctx steps entries ctx') : entries.map Entry.term = ts := by
  induction h with
  | nil ctx => rfl
  | free _ _ _ ih => exact congrArg _ ih
  | charged _ _ _ ih => exact congrArg _ ih
  | missing _ _ _ ih => exact congrArg _ ih
  | circular _ _ _ _ ih => exact congrArg _ ih
  | overLimit _ _ _ _ _ ih => exact congrArg _ ih
  | followed _ _ _ _ _ _ _ ih => exact congrArg _ ih

/-- Without terms nothing is done. -/
lemma eq_of_nil (h : Traversal ts ctx steps [] ctx') : ctx' = ctx := by
  cases h
  rfl

lemma attached (h : Traversal ts ctx steps entries ctx') :
    ∀ entry ∈ entries, Attached entry := by
  induction h with
  | nil ctx => simp
  | free href _ _ ih => exact List.forall_mem_cons.2 ⟨attached_plain href, ih⟩
  | charged href _ _ ih => exact List.forall_mem_cons.2 ⟨attached_plain href, ih⟩
  | missing href _ _ ih => exact List.forall_mem_cons.2 ⟨attached_expanded href rfl, ih⟩
  | circular href _ _ _ ih => exact List.forall_mem_cons.2 ⟨attached_expanded href rfl, ih⟩
  | overLimit href _ _ _ _ ih => exact List.forall_mem_cons.2 ⟨attached_expanded href rfl, ih⟩
  | followed href _ _ _ _ _ _ ih =>
      exact List.forall_mem_cons.2 ⟨attached_expanded href (domain_findingFor _ _ _), ih⟩

/-- All nodes below the entries of a traversal are faithful to its questions. -/
lemma faithful (h : Traversal ts ctx steps entries ctx') (hsub : questions steps ⊆ events) :
    ∀ p ∈ referencesOfEntries entries, Faithful events [] p.2 := by
  induction h with
  | nil ctx => simp [referencesOfEntries]
  | free _ _ _ ih => exact ih hsub
  | charged _ _ _ ih => exact ih hsub
  | missing _ _ _ ih =>
      rw [referencesOfEntries_failed]
      exact List.forall_mem_cons.2 ⟨faithful_failed _ _ _ _ _, ih hsub⟩
  | circular _ _ _ _ ih =>
      rw [referencesOfEntries_failed]
      exact List.forall_mem_cons.2 ⟨faithful_failed _ _ _ _ _, ih hsub⟩
  | overLimit _ _ _ _ _ ih =>
      rw [referencesOfEntries_failed]
      exact List.forall_mem_cons.2 ⟨faithful_failed _ _ _ _ _, ih hsub⟩
  | followed _ _ _ _ terms _ ihterms ih =>
      rw [questions_charge, questions_mark, questions_ask, List.cons_subset, questions_append,
        List.append_subset] at hsub
      obtain ⟨hmem, hinner, hrest⟩ := hsub
      rw [referencesOfEntries_node]
      refine List.forall_mem_cons.2 ⟨?_, List.forall_mem_append.2 ⟨ihterms hinner, ih hrest⟩⟩
      exact faithful_findingFor hmem terms.map_term terms.attached

end Traversal

/-- The root of a validation, with the issue that it took too many lookups if it did. -/
lemma Fetch.faithful_verdict {ctx : Context} {steps : List Step} {report : Report}
    (h : Fetch domain (Context.empty.mark domain) steps report ctx)
    (hsub : questions steps ⊆ events) :
    Faithful events (limitIssue ctx.count) (verdict report ctx) := by
  cases h with
  | @intro answer steps entries _ terms =>
      have hroot : Faithful events []
          (.node (findingFor domain answer ctx.lookupCount) entries) :=
        faithful_findingFor (hsub List.mem_cons_self) terms.map_term terms.attached
      by_cases hcount : ctx.count ≤ maxLookups
      · rw [verdict_of_le hcount, limitIssue, if_neg (Nat.not_lt_of_le hcount)]
        exact hroot
      · rw [verdict_of_lt (Nat.lt_of_not_le hcount), limitIssue,
          if_pos (Nat.lt_of_not_le hcount)]
        refine ⟨Or.inr ?_, hroot.attached⟩
        rcases hroot.blank_or_shows with hblank | ⟨txt, record, hmem, hshows⟩
        · -- without terms nothing is charged
          have hentries : entries = [] := hblank.entries_eq
          rw [hentries] at terms
          rw [terms.eq_of_nil, Context.count_mark] at hcount
          exact absurd (Nat.zero_le _) hcount
        · exact ⟨txt, record, hmem, hshows.addIssue _⟩

/-- What the nodes of the report of a validation show.

No name is asked for twice, so a domain has one answer at most.  Every node is faithful to the
answers; the root shows at its end whether its count is over the limit, and no other node does. -/
theorem faithful_of_run_validate {report : Report} (h : Run (validate domain) events report) :
    (events.map Prod.fst).Nodup ∧ report.finding.domain = Domain.normalize domain ∧
      Faithful events (limitIssue report.finding.lookupCount.toNat) report ∧
      ∀ n ∈ report.nodes.tail, Faithful events [] n := by
  obtain ⟨hnodup, -, -⟩ := questions_of_run_validate h
  obtain ⟨steps, r, ctx, hfetch, rfl, rfl⟩ := run_validate_iff.1 h
  have hstart : (Context.empty.mark (Domain.normalize domain)).count ≤ maxLookups + 1 := by
    rw [Context.count_mark]
    exact Nat.zero_le _
  refine ⟨hnodup, domain_of_run_validate h, ?_, ?_⟩
  · rw [lookupCount_verdict, hfetch.toNat_lookupCount hstart]
    exact hfetch.faithful_verdict (List.Subset.refl _)
  · rw [nodes_eq, List.tail_cons, references_eq_referencesOfEntries, entries_verdict]
    intro n hn
    obtain ⟨p, hp, rfl⟩ := List.mem_map.1 hn
    cases hfetch with
    | intro terms => exact terms.faithful (List.subset_cons_self _ _) p hp

/-- In the report on two domains that refer to each other, the node of the second one shows the
policy that was answered for it, which is the second of its TXT strings. -/
theorem faithful_of_ring :
    ∃ n ∈ ((validate "B").run ring).nodes.tail, n.finding.domain = "c" ∧
      n.finding.record = some "v=spf1 a include:b ?all" ∧
      Faithful [("b", ring "b"), ("c", ring "c")] [] n := by
  have hqueries : (validate "B").queries ring = ["b", "c"] := by decide +kernel
  have hsecond : (((validate "B").run ring).nodes.tail[0]?.map fun n =>
      (n.finding.domain, n.finding.record)) = some ("c", some "v=spf1 a include:b ?all") := by
    decide +kernel
  obtain ⟨-, -, -, hnodes⟩ := faithful_of_run_validate (Inquiry.run_of_fixed ring (validate "B"))
  rw [hqueries] at hnodes
  obtain ⟨n, hn, hshown⟩ := Option.map_eq_some_iff.1 hsecond
  obtain ⟨hdomain, hrecord⟩ := Prod.mk.inj hshown
  have hmem := List.mem_of_getElem? hn
  exact ⟨n, hmem, hdomain, hrecord, hnodes n hmem⟩

end Lookup

end SenderPolicy
