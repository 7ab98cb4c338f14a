/-
A census of the references that a traversal comes upon.

Every reference of a term that is gone through is either followed or refused.  So the domains that
are asked for, together with the targets of the references that are refused, are the targets of
the terms at the start and of the terms of all domains that are asked for
(`Lookup.Traversal.perm_targets`).  A reference is refused because it names no domain, because its
domain is visited in the end, or because the count has passed the limit; and a report has no
errors exactly if no reference is refused and all answers are usable.

The census also says how many lookups a traversal takes: as many as there are terms for which one
is taken, except for references that are refused.
-/
import SenderPolicy.Proofs.Graph.DepthFirst
import SenderPolicy.Proofs.Lookup.Accounting
import SenderPolicy.Proofs.Record.Policy

namespace SenderPolicy

namespace Lookup

/-- The targets of the references that are refused. -/
def refused (refs : List (Term × Report)) : List String :=
  (refs.filter fun p => fate p.1 p.2 != .fetched).map fun p => target p.1

/-- The number of terms that take a lookup. -/
def lookupTerms (ts : List Term) : Nat := ts.countP fun t => t.kind.takesLookup

/-- The number of lookups that the policy of a domain takes, when every name has a fixed answer. -/
def cost (resolve : String → TxtAnswer) (domain : String) : Nat :=
  lookupTerms (termsOf (resolve domain))

/-- An answer is usable if it has one policy, and this has no more than one redirect. -/
structure Usable (answer : TxtAnswer) : Prop where
  one_policy : ∃ txt record, answer = .ok txt ∧ policies txt = [record]
  one_redirect : Rules.redirectCount (termsOf answer) ≤ 1

/-! ### Usable answers -/

lemma hasErrors_failed (domain : String) (count : UInt32) (message : String) :
    (Report.failed domain count message).hasErrors = true := rfl

lemma isPolicy_of_mem_policies {txt : List String} {record : String} (h : record ∈ policies txt) :
    Record.isPolicy record = true :=
  (List.mem_filter.1 h).2

/-- Of the issues on a domain whose policy was read, only those on several policies and on several
redirects are errors. -/
lemma hasErrors_findingOf_iff {domain record : String} {issues : List Issue} {count : UInt32}
    (h : Record.isPolicy record = true) :
    ({ findingOf domain record issues with lookupCount := count } : Finding).hasErrors = false ↔
      (∀ i ∈ issues, i.isError = false) ∧
        Rules.redirectCount (Record.read record).terms ≤ 1 := by
  have hrules : (∃ i ∈ Rules.check record (Record.read record).terms, i.isError = true) ↔
      1 < Rules.redirectCount (Record.read record).terms := Rules.exists_isError_check_iff
  simp only [Finding.hasErrors, findingOf, List.any_eq_false, Bool.not_eq_true,
    List.forall_mem_append]
  constructor
  · rintro ⟨⟨hissues, -⟩, hcheck⟩
    refine ⟨hissues, Nat.le_of_not_lt fun hlt => ?_⟩
    obtain ⟨i, hi, herror⟩ := hrules.2 hlt
    rw [hcheck i hi] at herror
    cases herror
  · rintro ⟨hissues, hcount⟩
    refine ⟨⟨hissues, Record.isError_of_mem_issues h⟩, fun i hi => ?_⟩
    rw [Bool.eq_false_iff]
    intro herror
    exact Nat.not_lt_of_le hcount (hrules.1 ⟨i, hi, herror⟩)

/-- A finding has no errors exactly if its answer is usable. -/
lemma hasErrors_findingFor_iff {domain : String} {answer : TxtAnswer} {count : UInt32} :
    (findingFor domain answer count).hasErrors = false ↔ Usable answer := by
  rcases policyOfAnswer_cases answer with
    ⟨message, herror, hnone⟩ | ⟨txt, record, others, rfl, hpolicies, hok⟩
  · have hfailed : (findingFor domain answer count).hasErrors = true := by
      simp [findingFor, herror, Finding.failed, Finding.hasErrors]
    rw [hfailed]
    constructor
    · intro h
      cases h
    · rintro ⟨⟨txt, record, rfl, hone⟩, -⟩
      rw [hnone txt rfl] at hone
      cases hone
  · have hmem : record ∈ policies txt := by
      rw [hpolicies]
      exact List.mem_cons_self
    have hterms := termsOf_of_ok hok
    simp only [findingFor, hok]
    rw [hasErrors_findingOf_iff (isPolicy_of_mem_policies hmem), ← hterms]
    constructor
    · rintro ⟨hissues, hcount⟩
      refine ⟨⟨txt, record, rfl, ?_⟩, hcount⟩
      by_cases hothers : others = []
      · rw [hpolicies, hothers]
      · rw [if_neg hothers] at hissues
        exact absurd (hissues _ List.mem_cons_self) (by simp)
    · rintro ⟨⟨_, record', heq, hone⟩, hcount⟩
      cases heq
      rw [hpolicies, List.cons.injEq] at hone
      rw [if_pos hone.2]
      exact ⟨by simp, hcount⟩

/-! ### Refused references -/

section Refused

variable {t : Term} {domain message : String} {count : UInt32} {entries : List Entry}

@[simp] lemma refused_nil : refused [] = [] := rfl

/-- A reference that is not followed is refused. -/
lemma refused_failed (h : fate t (.failed domain count message) ≠ .fetched) :
    refused (referencesOfEntries (.expanded t (.failed domain count message) :: entries)) =
      target t :: refused (referencesOfEntries entries) := by
  rw [referencesOfEntries_failed]
  simp [refused, h]

/-- Of a reference that is followed, those below it may be refused. -/
lemma refused_fetched {answer : TxtAnswer} {children : List Entry} :
    refused (referencesOfEntries
        (.expanded t (.node (findingFor domain answer count) children) :: entries)) =
      refused (referencesOfEntries children) ++ refused (referencesOfEntries entries) := by
  rw [referencesOfEntries_node]
  simp [refused]

end Refused

variable {resolve : String → TxtAnswer} {ctx ctx' : Context} {ts : List Term}
  {steps : List Step} {entries : List Entry}

/-- What is asked for, and what is refused, are the targets of the terms that are gone through and
of the terms of what is asked for. -/
lemma Traversal.perm_targets (h : Traversal ts ctx steps entries ctx')
    (hfixed : AnsweredBy resolve steps) :
    (asked steps ++ refused (referencesOfEntries entries)).Perm
      (targets ts ++ (asked steps).flatMap (links resolve)) := by
  induction h with
  | nil ctx => exact List.Perm.refl _
  | free href _ _ ih =>
      rw [targets_cons_of_not_isReference href]
      exact ih hfixed
  | charged href _ _ ih =>
      rw [targets_cons_of_not_isReference href]
      exact ih hfixed
  | missing href _ _ ih =>
      rw [targets_cons_of_isReference href, refused_failed (by simp)]
      exact List.perm_middle.trans ((ih hfixed).cons _)
  | circular href _ _ _ ih =>
      rw [targets_cons_of_isReference href, refused_failed (by simp)]
      exact List.perm_middle.trans ((ih hfixed).cons _)
  | overLimit href _ _ _ _ ih =>
      rw [targets_cons_of_isReference href, refused_failed (by simp)]
      exact List.perm_middle.trans ((ih hfixed).cons _)
  | @followed t ts ctx ctx₁ ctx' answer inner steps children entries href _ _ _ _ _ ihterms ih =>
      obtain ⟨rfl, hboth⟩ := answeredBy_ask_iff.1 hfixed
      obtain ⟨hinner, hsteps⟩ := answeredBy_append_iff.1 hboth
      rw [targets_cons_of_isReference href, refused_fetched]
      simp only [asked_charge, asked_mark, asked_ask, asked_append, List.cons_append]
      -- the terms that are gone through below the reference are those of its target
      refine List.Perm.cons _ (List.perm_iff_count.2 fun a => ?_)
      have hcount := List.perm_iff_count.1 (ihterms hinner) a
      have hcount' := List.perm_iff_count.1 (ih hsteps) a
      simp only [List.flatMap_cons, List.flatMap_append, List.count_append, links]
        at hcount hcount' ⊢
      omega

/-- Why a reference is refused, seen from the end. -/
lemma Traversal.of_mem_refused (h : Traversal ts ctx steps entries ctx') :
    ∀ z ∈ refused (referencesOfEntries entries),
      z = "" ∨ z ∈ ctx'.visited ∨ maxLookups < ctx'.count := by
  induction h with
  | nil ctx => simp [referencesOfEntries]
  | free _ _ _ ih => exact ih
  | charged _ _ _ ih => exact ih
  | missing _ hempty _ ih =>
      intro z hz
      rw [refused_failed (by simp)] at hz
      rcases List.mem_cons.1 hz with rfl | hz
      · exact Or.inl hempty
      · exact ih z hz
  | circular _ _ hmem hrest ih =>
      intro z hz
      rw [refused_failed (by simp)] at hz
      rcases List.mem_cons.1 hz with rfl | hz
      · exact Or.inr (Or.inl (hrest.extends_context.visited_subset hmem))
      · exact ih z hz
  | overLimit _ _ _ hlimit hrest ih =>
      intro z hz
      rw [refused_failed (by simp)] at hz
      rcases List.mem_cons.1 hz with rfl | hz
      · have hcount := Context.maxLookups_lt_count_charge hlimit
        exact Or.inr (Or.inr (Nat.lt_of_lt_of_le hcount hrest.extends_context.count_le))
      · exact ih z hz
  | followed _ _ _ _ _ hrest ihterms ih =>
      intro z hz
      rw [refused_fetched, List.mem_append] at hz
      rcases hz with hz | hz
      · have hextends := hrest.extends_context
        -- the reasons stay what they are while the rest of the terms is gone through
        rcases ihterms z hz with hempty | hvisited | hcount
        · exact Or.inl hempty
        · exact Or.inr (Or.inl (hextends.visited_subset hvisited))
        · exact Or.inr (Or.inr (Nat.lt_of_lt_of_le hcount hextends.count_le))
      · exact ih z hz

/-- A report has no errors below its root exactly if no reference is refused and what is asked for
has usable answers. -/
lemma Traversal.hasErrors_iff (h : Traversal ts ctx steps entries ctx')
    (hfixed : AnsweredBy resolve steps) :
    (∀ p ∈ referencesOfEntries entries, p.2.hasErrors = false) ↔
      refused (referencesOfEntries entries) = [] ∧ ∀ x ∈ asked steps, Usable (resolve x) := by
  induction h with
  | nil ctx => simp [referencesOfEntries]
  | free _ _ _ ih => exact ih hfixed
  | charged _ _ _ ih => exact ih hfixed
  | missing =>
      -- here and in the next two cases both sides are false
      rw [refused_failed (by simp), referencesOfEntries_failed, List.forall_mem_cons]
      simp [hasErrors_failed]
  | circular =>
      rw [refused_failed (by simp), referencesOfEntries_failed, List.forall_mem_cons]
      simp [hasErrors_failed]
  | overLimit =>
      rw [refused_failed (by simp), referencesOfEntries_failed, List.forall_mem_cons]
      simp [hasErrors_failed]
  | followed _ _ _ _ _ _ ihterms ih =>
      obtain ⟨rfl, hboth⟩ := answeredBy_ask_iff.1 hfixed
      obtain ⟨hinner, hsteps⟩ := answeredBy_append_iff.1 hboth
      rw [refused_fetched, referencesOfEntries_node, List.forall_mem_cons,
        List.forall_mem_append, ihterms hinner, ih hsteps, List.append_eq_nil_iff, asked_charge,
        asked_mark, asked_ask, asked_append, List.forall_mem_cons, List.forall_mem_append,
        Report.hasErrors, Report.finding_node, hasErrors_findingFor_iff]
      constructor
      · rintro ⟨husable, ⟨hinside, hinside'⟩, hrest, hrest'⟩
        exact ⟨⟨hinside, hrest⟩, husable, hinside', hrest'⟩
      · rintro ⟨⟨hinside, hrest⟩, husable, hinside', hrest'⟩
        exact ⟨husable, ⟨hinside, hinside'⟩, hrest, hrest'⟩

/-- What is asked for can be reached from a target of the terms at the start. -/
lemma Traversal.exists_reachable (h : Traversal ts ctx steps entries ctx')
    (hfixed : AnsweredBy resolve steps) :
    ∀ x ∈ asked steps, ∃ z ∈ targets ts, x ∈ reachable (links resolve) z := by
  induction h with
  | nil ctx => simp
  | free href _ _ ih =>
      rw [targets_cons_of_not_isReference href]
      exact ih hfixed
  | charged href _ _ ih =>
      rw [targets_cons_of_not_isReference href]
      exact ih hfixed
  | missing href _ _ ih =>
      intro x hx
      obtain ⟨z, hz, hreach⟩ := ih hfixed x hx
      rw [targets_cons_of_isReference href]
      exact ⟨z, List.mem_cons_of_mem _ hz, hreach⟩
  | circular href _ _ _ ih =>
      intro x hx
      obtain ⟨z, hz, hreach⟩ := ih hfixed x hx
      rw [targets_cons_of_isReference href]
      exact ⟨z, List.mem_cons_of_mem _ hz, hreach⟩
  | overLimit href _ _ _ _ ih =>
      intro x hx
      obtain ⟨z, hz, hreach⟩ := ih hfixed x hx
      rw [targets_cons_of_isReference href]
      exact ⟨z, List.mem_cons_of_mem _ hz, hreach⟩
  | followed href _ _ _ _ _ ihterms ih =>
      obtain ⟨rfl, hboth⟩ := answeredBy_ask_iff.1 hfixed
      obtain ⟨hinner, hsteps⟩ := answeredBy_append_iff.1 hboth
      rw [targets_cons_of_isReference href]
      intro x hx
      rw [asked_charge, asked_mark, asked_ask, asked_append, List.mem_cons, List.mem_append] at hx
      rcases hx with rfl | hx | hx
      · exact ⟨_, List.mem_cons_self, Relation.ReflTransGen.refl⟩
      · obtain ⟨z, hz, hreach⟩ := ihterms hinner x hx
        exact ⟨_, List.mem_cons_self, Relation.ReflTransGen.head hz hreach⟩
      · obtain ⟨z, hz, hreach⟩ := ih hsteps x hx
        exact ⟨z, List.mem_cons_of_mem _ hz, hreach⟩

/-! ### The number of lookups -/

lemma takesLookup_of_isReference {k : Kind} (h : k.isReference = true) : k.takesLookup = true := by
  cases k <;> first | rfl | cases h

lemma lookupTerms_cons_of_takesLookup {t : Term} (h : t.kind.takesLookup = true) :
    lookupTerms (t :: ts) = lookupTerms ts + 1 :=
  List.countP_cons_of_pos h

lemma lookupTerms_cons_of_not_takesLookup {t : Term} (h : t.kind.takesLookup = false) :
    lookupTerms (t :: ts) = lookupTerms ts :=
  List.countP_cons_of_neg (Bool.eq_false_iff.1 h)

/-- The charges of a traversal are for the terms that take a lookup, apart from references that are
refused. -/
lemma Traversal.charges_le (h : Traversal ts ctx steps entries ctx')
    (hfixed : AnsweredBy resolve steps) :
    charges (momentsOfEntries entries) ≤
        lookupTerms ts + ((asked steps).map (cost resolve)).sum ∧
      lookupTerms ts + ((asked steps).map (cost resolve)).sum ≤
        charges (momentsOfEntries entries) + (refused (referencesOfEntries entries)).length := by
  induction h with
  | nil ctx => simp [lookupTerms, momentsOfEntries]
  | free _ hcost _ ih =>
      rw [lookupTerms_cons_of_not_takesLookup hcost,
        momentsOfEntries_plain_of_not_takesLookup _ hcost]
      exact ih hfixed
  | charged _ hcost _ ih =>
      have hrest := ih hfixed
      rw [lookupTerms_cons_of_takesLookup hcost, momentsOfEntries_plain_of_takesLookup _ hcost,
        charges_charge, asked_charge, referencesOfEntries_plain]
      omega
  | missing href _ _ ih =>
      -- the term takes a lookup by its kind, but it is refused without a charge
      have hrest := ih hfixed
      rw [lookupTerms_cons_of_takesLookup (takesLookup_of_isReference href),
        momentsOfEntries_failed_of_not_isCharged _ (isCharged_missing _ _ _), charges_completed,
        refused_failed (by simp), List.length_cons]
      omega
  | circular href _ _ _ ih =>
      have hrest := ih hfixed
      rw [lookupTerms_cons_of_takesLookup (takesLookup_of_isReference href),
        momentsOfEntries_failed_of_not_isCharged _ (isCharged_circular _ _ _), charges_completed,
        refused_failed (by simp), List.length_cons]
      omega
  | overLimit href _ _ _ _ ih =>
      -- the term is charged for and refused, which leaves the second bound with one to spare
      have hrest := ih hfixed
      rw [lookupTerms_cons_of_takesLookup (takesLookup_of_isReference href),
        momentsOfEntries_failed_of_isCharged _ (isCharged_overLimit _ _ _), charges_charge,
        charges_completed, refused_failed (by simp),
        List.length_cons, asked_charge]
      omega
  | followed href _ _ _ _ _ ihterms ih =>
      obtain ⟨rfl, hboth⟩ := answeredBy_ask_iff.1 hfixed
      obtain ⟨hinner, hsteps⟩ := answeredBy_append_iff.1 hboth
      have hinside := ihterms hinner
      have hrest := ih hsteps
      rw [lookupTerms_cons_of_takesLookup (takesLookup_of_isReference href),
        momentsOfEntries_node_of_isCharged _ _ (isCharged_fetched _ _ _ _ _), charges_charge,
        charges_append, charges_completed, refused_fetched, List.length_append, asked_charge,
        asked_mark, asked_ask, asked_append, List.map_cons, List.map_append, List.sum_cons,
        List.sum_append, cost]
      omega

end Lookup

end SenderPolicy
