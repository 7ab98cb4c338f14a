/-
What became of a reference.

A report carries a report for every reference, also for one that was not followed.  Which of the
four things happened to a reference can be read off this report (`Lookup.fate`): a report without
a record and with one of the three errors of references that are not followed belongs to such a
reference, and any other report to a domain that was fetched.  This is right because the errors
are told apart by their first twelve characters (`Lookup.opening`), also from the errors of a
domain that was fetched and has no policy.

The references of a report, each with the report on it, are listed in the order in which they are
come upon (`Lookup.references`); these are all nodes of the report but the root.
-/
import SenderPolicy.Proofs.Lookup.Answer

namespace SenderPolicy

namespace Lookup

/-! ### Telling the errors apart -/

/-- The first twelve characters of a message. -/
def opening (message : String) : List Char := message.toList.take 12

lemma opening_append (s rest : String) (h : 12 ≤ s.toList.length) :
    opening (s ++ rest) = opening s := by
  rw [opening, opening, String.toList_append, List.take_append_of_le_length h]

lemma opening_noTarget (kind : Kind) : (opening (noTarget kind)).head? = some '\'' := by
  rw [noTarget, String.append_assoc, opening, String.toList_append]
  rfl

lemma opening_circular (domain : String) :
    opening (circular domain) = "Circular ref".toList := by
  have hlength : 12 ≤ "Circular reference detected: ".toList.length := by decide +kernel
  unfold circular
  simp only [String.append_assoc]
  refine (opening_append _ _ hlength).trans ?_
  decide +kernel

lemma opening_overLimit (domain : String) :
    opening (overLimit domain) = "DNS lookup l".toList := by
  have hlength : 12 ≤ "DNS lookup limit exceeded (max ".toList.length := by decide +kernel
  unfold overLimit
  simp only [String.append_assoc]
  refine (opening_append _ _ hlength).trans ?_
  decide +kernel

/-- The error of a domain that was fetched and gives no policy. -/
lemma opening_of_error {answer : TxtAnswer} {message : String}
    (h : policyOfAnswer answer = .error message) :
    opening message = "DNS lookup f".toList ∨ opening message = "No TXT recor".toList ∨
      opening message = "No SPF recor".toList := by
  rcases answer with e | txt
  · have hlength : 12 ≤ "DNS lookup failed: ".toList.length := by decide +kernel
    cases h
    refine Or.inl ((opening_append _ _ hlength).trans ?_)
    decide +kernel
  · cases txt with
    | nil =>
        cases h
        refine Or.inr (Or.inl ?_)
        decide +kernel
    | cons s rest =>
        simp only [policyOfAnswer] at h
        split at h
        · have hlength : 12 ≤ "No SPF record found (".toList.length := by decide +kernel
          cases h
          unfold noPolicy
          simp only [String.append_assoc]
          refine Or.inr (Or.inr ((opening_append _ _ hlength).trans ?_))
          decide +kernel
        · cases h
        · cases h

lemma circular_ne_noTarget (domain : String) (kind : Kind) : circular domain ≠ noTarget kind := by
  intro h
  have hhead := opening_noTarget kind
  rw [← h, opening_circular] at hhead
  exact absurd hhead (by decide +kernel)

lemma overLimit_ne_noTarget (domain : String) (kind : Kind) :
    overLimit domain ≠ noTarget kind := by
  intro h
  have hhead := opening_noTarget kind
  rw [← h, opening_overLimit] at hhead
  exact absurd hhead (by decide +kernel)

lemma overLimit_ne_circular (domain domain' : String) : overLimit domain ≠ circular domain' := by
  intro h
  have heq := opening_circular domain'
  rw [← h, opening_overLimit] at heq
  exact absurd heq (by decide +kernel)

/-- The error of a domain that was fetched is none of those of references that are not followed. -/
lemma ne_of_error {answer : TxtAnswer} {message : String}
    (h : policyOfAnswer answer = .error message) (kind : Kind) (domain : String) :
    message ≠ noTarget kind ∧ message ≠ circular domain ∧ message ≠ overLimit domain := by
  refine ⟨?_, ?_, ?_⟩
  · rintro rfl
    have hhead := opening_noTarget kind
    rcases opening_of_error h with heq | heq | heq <;> rw [heq] at hhead <;>
      exact absurd hhead (by decide +kernel)
  · rintro rfl
    have hcircular := opening_circular domain
    rcases opening_of_error h with heq | heq | heq <;> rw [heq] at hcircular <;>
      exact absurd hcircular (by decide +kernel)
  · rintro rfl
    have hlimit := opening_overLimit domain
    rcases opening_of_error h with heq | heq | heq <;> rw [heq] at hlimit <;>
      exact absurd hlimit (by decide +kernel)

/-! ### The four fates -/

/-- What can become of a reference. -/
inductive Fate where
  /-- It names no domain. -/
  | missing
  /-- Its domain was fetched before. -/
  | circular
  /-- The budget does not allow to follow it. -/
  | overLimit
  /-- Its domain was fetched. -/
  | fetched
  deriving DecidableEq, Repr

/-- What became of a reference, going by the report that it carries. -/
def fate (t : Term) (report : Report) : Fate :=
  if report.finding.record.isSome then .fetched
  else if report.finding.issues = [.error (noTarget t.kind)] then .missing
  else if report.finding.issues = [.error (circular (target t))] then .circular
  else if report.finding.issues = [.error (overLimit (target t))] then .overLimit
  else .fetched

section Fates

variable (t : Term) (domain : String) (count : UInt32)

@[simp] lemma fate_missing : fate t (.failed domain count (noTarget t.kind)) = .missing := by
  simp [fate, Report.failed, Finding.failed]

@[simp] lemma fate_circular :
    fate t (.failed domain count (circular (target t))) = .circular := by
  simp [fate, Report.failed, Finding.failed, Issue.error, circular_ne_noTarget]

@[simp] lemma fate_overLimit :
    fate t (.failed domain count (overLimit (target t))) = .overLimit := by
  simp [fate, Report.failed, Finding.failed, Issue.error, overLimit_ne_noTarget,
    overLimit_ne_circular]

@[simp] lemma fate_fetched (answer : TxtAnswer) (entries : List Entry) :
    fate t (.node (findingFor domain answer count) entries) = .fetched := by
  unfold findingFor
  cases h : policyOfAnswer answer with
  | error message =>
      obtain ⟨hmissing, hcircular, hlimit⟩ := ne_of_error h t.kind (target t)
      simp [fate, Finding.failed, Issue.error, hmissing, hcircular, hlimit]
  | ok p => simp [fate, findingOf]

end Fates

/-! ### The references of a report -/

mutual

/-- The references of a report, each with the report on it, in the order in which they are come
upon. -/
def references : Report → List (Term × Report)
  | .node _ entries => referencesOfEntries entries

/-- The references of some entries. -/
def referencesOfEntries : List Entry → List (Term × Report)
  | [] => []
  | entry :: entries => referencesOfEntry entry ++ referencesOfEntries entries

/-- The references of an entry. -/
def referencesOfEntry : Entry → List (Term × Report)
  | .plain _ => []
  | .expanded t report => (t, report) :: references report

end

lemma references_eq_referencesOfEntries (report : Report) :
    references report = referencesOfEntries report.entries := by
  cases report with
  | node finding entries => rw [references, Report.entries_node]

lemma referencesOfEntries_plain (t : Term) (entries : List Entry) :
    referencesOfEntries (.plain t :: entries) = referencesOfEntries entries := rfl

lemma referencesOfEntries_failed (t : Term) (domain : String) (count : UInt32) (message : String)
    (entries : List Entry) :
    referencesOfEntries (.expanded t (.failed domain count message) :: entries) =
      (t, .failed domain count message) :: referencesOfEntries entries := rfl

lemma referencesOfEntries_node (t : Term) (finding : Finding) (children entries : List Entry) :
    referencesOfEntries (.expanded t (.node finding children) :: entries) =
      (t, .node finding children) ::
        (referencesOfEntries children ++ referencesOfEntries entries) := rfl

mutual

/-- The nodes of a report are its root and the reports on its references. -/
lemma nodes_eq (report : Report) :
    report.nodes = report :: (references report).map Prod.snd := by
  cases report with
  | node finding entries =>
      rw [Report.nodes, references, nodesOfEntries_eq entries]

lemma nodesOfEntries_eq (entries : List Entry) :
    Report.nodesOfEntries entries = (referencesOfEntries entries).map Prod.snd := by
  cases entries with
  | nil => rfl
  | cons entry entries =>
      rw [Report.nodesOfEntries, referencesOfEntries, List.map_append, nodesOfEntry_eq entry,
        nodesOfEntries_eq entries]

lemma nodesOfEntry_eq (entry : Entry) :
    Report.nodesOfEntry entry = (referencesOfEntry entry).map Prod.snd := by
  cases entry with
  | plain t => rfl
  | expanded t report =>
      rw [Report.nodesOfEntry, referencesOfEntry, List.map_cons, nodes_eq report]

end

/-- A report has no errors exactly if there are none at its root and at its references. -/
lemma hasErrorsInTree_eq_false_iff (report : Report) :
    report.hasErrorsInTree = false ↔
      report.hasErrors = false ∧ ∀ p ∈ references report, p.2.hasErrors = false := by
  rw [Report.hasErrorsInTree, nodes_eq, List.any_cons, Bool.or_eq_false_iff]
  simp only [List.any_eq_false, List.mem_map, Bool.not_eq_true]
  constructor
  · rintro ⟨hroot, hrest⟩
    exact ⟨hroot, fun p hp => hrest p.2 ⟨p, hp, rfl⟩⟩
  · rintro ⟨hroot, hrest⟩
    refine ⟨hroot, ?_⟩
    rintro _ ⟨p, hp, rfl⟩
    exact hrest p hp

end Lookup

end SenderPolicy
